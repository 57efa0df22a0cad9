import PasteRules.Proofs.Settings.PresentForm
import PasteRules.Settings.DefaultLinks

/-! Migration and loading give consistent settings whatever was saved, and default links, which can
fail on a value as it stands in a file, never fail on what migration gives. -/
namespace PasteRules

theorem mapM_eq_ok {α β ε : Type} {f : α → Except ε β} {g : α → β} {xs : List α}
    (h : ∀ x ∈ xs, f x = .ok (g x)) : xs.mapM f = .ok (xs.map g) := by
  induction xs with
  | nil => rfl
  | cons x rest ih =>
    have hrest : rest.mapM f = .ok (rest.map g) := ih fun y hy => h y (List.mem_cons_of_mem _ hy)
    rw [List.mapM_cons, h x List.mem_cons_self, hrest]
    rfl

namespace Json

def ofPair (x : Nat × String × String) : Nat × Json × Json := (x.1, .str x.2.1, .str x.2.2)

/-- Strings identify the same thing if they are equal, so repeated pairs are the same ones. -/
theorem distinctPairs_ofPair (seen : List (String × String))
    (pairs : List (Nat × String × String)) :
    Settings.distinctPairs sameIdentity (seen.map fun q => (.str q.1, .str q.2))
        (pairs.map ofPair) =
      (Settings.distinctPairs (· == ·) seen pairs).map ofPair := by
  induction pairs generalizing seen with
  | nil => rfl
  | cons x rest ih =>
    obtain ⟨i, p, r⟩ := x
    have hany : (seen.map fun q => (Json.str q.1, Json.str q.2)).any
        (fun q => sameIdentity q.1 (.str p) && sameIdentity q.2 (.str r)) =
          seen.any fun q => q.1 == p && q.2 == r := by
      rw [List.any_map]
      rfl
    have hskip := ih seen
    have htake := ih ((p, r) :: seen)
    simp only [List.map_cons, ofPair, Settings.distinctPairs, hany] at hskip htake ⊢
    split
    · exact hskip
    · rw [List.map_cons, htake]
      rfl

theorem idAt_map_toJson {fragments : List Fragment} {i : Nat} (h : i < fragments.length) :
    (Json.arr (fragments.map Fragment.toJson)).idAt i = .ok (.str fragments[i].id) := by
  simp [idAt, h, Fragment.toJson]

theorem mapM_idAt (patterns replacers : List Fragment) :
    (List.range (min patterns.length replacers.length)).mapM (fun i => do
        let p ← (Json.arr (patterns.map Fragment.toJson)).idAt i
        let r ← (Json.arr (replacers.map Fragment.toJson)).idAt i
        return (i, ← p.asIdentity, ← r.asIdentity)) =
      (Except.ok ((Settings.alignedPairs (patterns.map Fragment.id)
        (replacers.map Fragment.id)).map ofPair) : Except Fault _) := by
  have hpair : ∀ i ∈ List.range (min patterns.length replacers.length),
      (do
        let p ← (Json.arr (patterns.map Fragment.toJson)).idAt i
        let r ← (Json.arr (replacers.map Fragment.toJson)).idAt i
        return (i, ← p.asIdentity, ← r.asIdentity) : Except Fault _) =
          .ok (ofPair (i, (patterns[i]?.map Fragment.id).getD "",
            (replacers[i]?.map Fragment.id).getD "")) := by
    intro i hi
    obtain ⟨hp, hr⟩ := Nat.lt_min.mp (List.mem_range.mp hi)
    rw [idAt_map_toJson hp, idAt_map_toJson hr, List.getElem?_eq_getElem hp,
      List.getElem?_eq_getElem hr]
    rfl
  rw [mapM_eq_ok hpair]
  refine congrArg Except.ok (List.ext_getElem (by simp [Settings.alignedPairs]) fun i hi _ => ?_)
  obtain ⟨hp, hr⟩ : i < patterns.length ∧ i < replacers.length := by
    simpa [Nat.lt_min] using hi
  simp [Settings.alignedPairs, hp, hr]

theorem alignedLinks_map_toJson {σ : Type} [IdSupply σ] (patterns replacers : List Fragment)
    (s : σ) :
    (Settings.alignedLinks patterns replacers [] [] s).1.map Link.toJson =
      List.zipWith (fun id pair => .obj [("id", .str id), ("patternId", pair.2.1),
          ("replacerId", pair.2.2), ("enabled", .bool true), ("comment", .str "")])
        (Settings.linkIds (Settings.placePairs patterns replacers).length s).1
        ((Settings.placePairs patterns replacers).map ofPair) := by
  rw [List.zipWith_map_right]
  exact List.map_zipWith

theorem isTruthy_arr_map {α : Type} (save : α → Json) (xs : List α) :
    (Json.arr (xs.map save)).isTruthy = !xs.isEmpty := by
  simp [isTruthy]

/-- Default links for saved settings are those of the settings. They are found without a fault. -/
theorem withDefaultLinks_toJson {σ : Type} [IdSupply σ] (settings : Settings) (s : σ) :
    withDefaultLinks settings.toJson s =
      .ok ((Settings.withDefaultLinks settings s).1.toJson,
        (Settings.withDefaultLinks settings s).2) := by
  have hp : settings.toJson.field "patterns" = .arr (settings.patterns.map Fragment.toJson) := rfl
  have hr : settings.toJson.field "replacers" = .arr (settings.replacers.map Fragment.toJson) := rfl
  have hl : settings.toJson.field "links" = .arr (settings.links.map Link.toJson) := rfl
  have hobj : settings.toJson = .obj _ := rfl
  unfold withDefaultLinks Settings.withDefaultLinks
  rw [hobj]
  simp only [← hobj, hp, hr, hl, isTruthy_arr_map, Bool.not_not]
  split
  · rfl
  · have hcount : ∀ fragments : List Fragment,
        (Json.arr (fragments.map Fragment.toJson)).length? = .ok fragments.length := by
      simp [length?]
    have hplace : Settings.distinctPairs sameIdentity []
        ((Settings.alignedPairs (settings.patterns.map Fragment.id)
          (settings.replacers.map Fragment.id)).map ofPair) =
            (Settings.placePairs settings.patterns settings.replacers).map ofPair :=
      distinctPairs_ofPair [] _
    have hpairs := mapM_idAt settings.patterns settings.replacers
    simp only [hcount, bind, Except.bind] at hpairs ⊢
    rw [hpairs]
    simp only [hplace, List.length_map, ← alignedLinks_map_toJson]
    rfl

end Json

namespace Settings

/-- Whatever was saved, migrating and loading it give consistent settings in the present form. The
default links of loading are found without a fault, and only settings that lack patterns or
replacers are left without links. -/
theorem migrate_load_isConsistent {σ : Type} [IdSupply σ] (saved : Json) (s : σ) :
    (migrate saved s).1.toJson.IsConsistent ∧ (load saved s).1.toJson.IsConsistent ∧
      Json.withDefaultLinks (migrate (overBuiltIn saved) s).1.toJson
          (migrate (overBuiltIn saved) s).2 =
        .ok ((load saved s).1.toJson, (load saved s).2) ∧
      ((load saved s).1.toJson.field "links" = .arr [] →
        (load saved s).1.toJson.field "patterns" = .arr [] ∨
          (load saved s).1.toJson.field "replacers" = .arr []) := by
  refine ⟨(migrate_consistent saved s).toJson, (load_consistent saved s).toJson,
    Json.withDefaultLinks_toJson .., fun hnil => ?_⟩
  change Json.arr ((load saved s).1.links.map Link.toJson) = .arr [] at hnil
  have hlinks : (load saved s).1.links = [] := by simpa using hnil
  refine (load_done saved s hlinks).imp (fun hp => ?_) fun hr => ?_
  · change Json.arr ((load saved s).1.patterns.map Fragment.toJson) = .arr []
    rw [hp, List.map_nil]
  · change Json.arr ((load saved s).1.replacers.map Fragment.toJson) = .arr []
    rw [hr, List.map_nil]

end Settings
end PasteRules
