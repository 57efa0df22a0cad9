import PasteRules.Proofs.Settings.PresentForm
import PasteRules.Proofs.Store.Effect

/-! Runs of edits. From nothing, and from settings as they are loaded, edits lead to sound graphs
only, so there is never a dangling link to prune. -/
namespace PasteRules

theorem perm_cons_eraseP {α : Type} {p : α → Bool} {x : α} {xs : List α}
    (h : xs.find? p = some x) : xs.Perm (x :: xs.eraseP p) := by
  induction xs with
  | nil => cases h
  | cons y rest ih =>
    by_cases hy : p y = true
    · obtain rfl : y = x := by simpa [hy] using h
      simp [hy]
    · have hrest : rest.find? p = some x := by simpa [hy] using h
      rw [List.eraseP_cons_of_neg hy]
      exact ((ih hrest).cons y).trans (.swap x y _)

namespace Store

variable {σ : Type}

def Sound (s : Store σ) : Prop := SoundGraph s.patterns s.replacers s.links

theorem placeFor?_le {index : Json} {n i : Nat} (h : placeFor? index n = some i) : i ≤ n := by
  unfold placeFor? clampIndex at h
  split at h
  · simp only [Option.some.injEq] at h
    omega
  · simp only [Option.some.injEq] at h
    omega
  · split at h
    · simp only [Option.some.injEq] at h
      omega
    · split at h
      · cases h
      · simp only [Option.some.injEq] at h
        omega
  · cases h

theorem perm_moved {s : Store σ} {id : String} {index : Json} {l : Link} {i : Nat}
    (found : s.links.find? (·.id == id) = some l)
    (place : placeFor? index (s.links.eraseP (·.id == id)).length = some i) :
    ((s.links.eraseP (·.id == id)).insertIdx i l).Perm s.links :=
  (List.perm_insertIdx l _ (placeFor?_le place)).trans (perm_cons_eraseP found).symm

/-- No edit makes a sound graph unsound, a failing one included. -/
theorem Effect.sound {s s' : Store σ} {e : Edit} (h : s.Effect e s') (hs : s.Sound) : s'.Sound := by
  cases h with
  | unchanged => exact hs
  | addPattern fresh => exact hs.addPattern fresh
  | addReplacer fresh => exact hs.addReplacer fresh
  | editPattern =>
    exact hs.relabel (updateFirst_map _ _ _ (by simp) _) rfl (.refl _) (.refl _)
  | editReplacer =>
    exact hs.relabel rfl (updateFirst_map _ _ _ (by simp) _) (.refl _) (.refl _)
  | removePattern => exact hs.removePattern _
  | removeReplacer => exact hs.removeReplacer _
  | addLink fresh drawn unjoined hp hr => exact hs.addLink fresh unjoined hp hr
  | removeLink => exact hs.sublist List.eraseP_sublist
  | setLinkEnabled | setLinkComment =>
    exact hs.relabel rfl rfl (.of_eq (updateFirst_map _ _ _ (by simp) _))
      (.of_eq (updateFirst_map _ _ _ (by simp [Link.pair]) _))
  | moveLink found place =>
    exact hs.relabel rfl rfl ((perm_moved found place).map _) ((perm_moved found place).map _)
  | loseLink => exact hs.sublist List.eraseP_sublist
  | pruneDanglingLinks => exact hs.sublist List.filter_sublist

theorem Sound.danglingLinks_eq_nil {s : Store σ} (h : s.Sound) : s.danglingLinks = [] := by
  refine List.filter_eq_nil_iff.mpr fun l hl => ?_
  obtain ⟨hp, hr⟩ := h.ends l hl
  simp [resolves, (Fragment.has_iff _ _).mpr hp, (Fragment.has_iff _ _).mpr hr]

theorem pruneDanglingLinks_of_nil {s : Store σ} (h : s.danglingLinks = []) :
    s.pruneDanglingLinks = (0, s) := by
  simp [pruneDanglingLinks_eq_ite, h]

theorem records_arr (items : List Json) :
    (Json.arr items).records = .ok (items.filter Json.isObject) := by
  cases items <;> rfl

theorem records_map {α : Type} {save : α → Json} (h : ∀ x, (save x).isObject = true)
    (xs : List α) : (Json.arr (xs.map save)).records = .ok (xs.map save) := by
  have hall : (xs.map save).filter Json.isObject = xs.map save := by
    rw [List.filter_eq_self]
    exact List.forall_mem_map.mpr fun x _ => h x
  rw [records_arr, hall]

theorem ofJson_toJson (settings : Settings) (ids : σ) :
    Store.ofJson settings.toJson ids = .ok (settings.toStore ids) := by
  have hp : (settings.toJson.field "patterns").records =
      .ok (settings.patterns.map Fragment.toJson) := records_map (fun _ => rfl) _
  have hr : (settings.toJson.field "replacers").records =
      .ok (settings.replacers.map Fragment.toJson) := records_map (fun _ => rfl) _
  have hl : (settings.toJson.field "links").records =
      .ok (settings.links.map Link.toJson) := records_map (fun _ => rfl) _
  have hobject : settings.toJson.isObject = true := rfl
  simp only [Store.ofJson, hobject, hp, hr, hl, bind, Except.bind, Fragment.map_ofJson_toJson,
    Link.map_ofJson_toJson]
  rfl

variable [IdSupply σ]

def afterEdits (s : Store σ) (edits : List Edit) : Store σ :=
  edits.foldl (fun s e => (s.edit e).2) s

theorem afterEdits_sound {s : Store σ} (h : s.Sound) (edits : List Edit) :
    (s.afterEdits edits).Sound := by
  induction edits generalizing s with
  | nil => exact h
  | cons e rest ih => exact ih ((s.edit_effect e).sound h)

/-- After any edits the graph is sound, no link dangles, and pruning finds nothing to do. -/
def StaysSound (s : Store σ) : Prop :=
  ∀ edits : List Edit, (s.afterEdits edits).Sound ∧ (s.afterEdits edits).danglingLinks = [] ∧
    (s.afterEdits edits).pruneDanglingLinks = (0, s.afterEdits edits)

theorem Sound.staysSound {s : Store σ} (h : s.Sound) : s.StaysSound := by
  intro edits
  have hafter := afterEdits_sound h edits
  exact ⟨hafter, hafter.danglingLinks_eq_nil, pruneDanglingLinks_of_nil hafter.danglingLinks_eq_nil⟩

/-- The empty store and the store of whatever was saved stay sound, with any supplies of
identifiers. -/
theorem edits_stay_sound {τ : Type} [IdSupply τ] (saved : Json) (s : τ) (ids : σ) :
    (Store.empty ids).StaysSound ∧
      ∃ loaded, Store.ofJson (Settings.load saved s).1.toJson ids = .ok loaded ∧
        loaded.StaysSound := by
  refine ⟨Sound.staysSound SoundGraph.empty, _, ofJson_toJson _ ids, Sound.staysSound ?_⟩
  exact (Settings.load_consistent saved s).graph

end Store
end PasteRules
