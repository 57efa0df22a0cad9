import PasteRules.Proofs.Rules.Gather
import PasteRules.Proofs.Session.Invariant
import PasteRules.Proofs.Settings.Idempotence
import PasteRules.Proofs.Settings.Places
import PasteRules.Proofs.Store.Named

/-! Saving a session and loading what was saved. The session comes back as it was, whatever was done
to it, but for one case: where fragments of both kinds are left and all links are gone, loading
joins the fragments by place. -/
namespace PasteRules

theorem Settings.load_toJson {σ : Type} [IdSupply σ] {settings : Settings} (h : settings.Consistent)
    (s : σ) : load settings.toJson s = withDefaultLinks settings s := by
  rw [load_eq, migrate_congr (field?_overBuiltIn h.toJson), h.toJson.migrate_eq, ofJson_toJson]

/-- Rules come from the entities of a store alone. -/
theorem Store.rules_congr {σ τ : Type} {s : Store σ} {t : Store τ} (hp : s.patterns = t.patterns)
    (hr : s.replacers = t.replacers) (hl : s.links = t.links) : s.rules = t.rules := by
  have hrule : s.ruleOf = t.ruleOf := by
    funext l
    unfold ruleOf
    rw [hp, hr]
  rw [rules_eq_gather, rules_eq_gather, hrule, hl]

namespace Session

variable {σ τ : Type}

def settings (s : Session σ) : Settings :=
  ⟨s.store.patterns, s.store.replacers, s.store.links, s.active, s.debug⟩

/-- The session has the fragments and switches of another, and a link at each place that has both a
pattern and a replacer. Each link is on and has no comment. -/
structure JoinsByPlace (t : Session τ) (s : Session σ) : Prop where
  patterns : t.store.patterns = s.store.patterns
  replacers : t.store.replacers = s.store.replacers
  active : t.active = s.active
  debug : t.debug = s.debug
  count : t.store.links.length = min s.store.patterns.length s.store.replacers.length
  joined : ∀ (i : Nat) (p r : Fragment), s.store.patterns[i]? = some p →
    s.store.replacers[i]? = some r → ∃ id, t.store.links[i]? = some ⟨id, p.id, r.id, true, ""⟩

variable [IdSupply σ] [IdSupply τ]

theorem settings_load (saved : Json) (ids : σ) :
    (load saved ids).settings = (Settings.load saved ids).1 := by
  unfold load
  cases Settings.load saved ids
  rfl

omit [IdSupply σ] in
theorem settings_consistent_iff (s : Session σ) :
    s.settings.Consistent ↔ s.store.Sound ∧ s.store.Named := by
  constructor
  · intro h
    exact ⟨h.graph, by simpa [settings] using h.patterns, by simpa [settings] using h.replacers,
      by simpa [settings] using h.links⟩
  · rintro ⟨hsound, hnamed⟩
    exact {
      graph := hsound
      patterns := fun p hp he => hnamed.patterns (he ▸ List.mem_map_of_mem hp)
      replacers := fun r hr he => hnamed.replacers (he ▸ List.mem_map_of_mem hr)
      links := fun l hl he => hnamed.links (he ▸ List.mem_map_of_mem hl) }

def Reached (s : Session σ) : Prop :=
  ∃ (saved : Json) (ids : σ) (steps : List Step),
    (∀ step ∈ steps, step.hasIntegerIndex = true) ∧ (load saved ids).after steps = s

theorem Reached.coherent {s : Session σ} (h : s.Reached) : s.Coherent := by
  obtain ⟨saved, ids, steps, hsteps, rfl⟩ := h
  exact (Opened.load saved ids).coherent.after hsteps

/-- Whatever is done to a loaded session, its settings stay consistent. -/
theorem Reached.settings_consistent {s : Session σ} (h : s.Reached) : s.settings.Consistent := by
  obtain ⟨saved, ids, steps, -, rfl⟩ := h
  have hloaded : (load saved ids).settings.Consistent := by
    rw [settings_load]
    exact Settings.load_consistent saved ids
  obtain ⟨hsound, hnamed⟩ := (settings_consistent_iff _).mp hloaded
  rw [settings_consistent_iff]
  constructor
  · exact after_keeps (fun store e h => (store.edit_effect e).sound h) hsound steps
  · exact after_keeps (fun store e h => (store.edit_effect e).named h) hnamed steps

/-- Saving finds nothing to prune in a sound graph and leaves the session alone. -/
theorem next_save {s : Session σ} (h : s.store.Sound) :
    s.next .save = (.ok (.answer (.blob s.settings.toJson)), s) := by
  have hprune : s.store.pruneDanglingLinks = (0, s.store) :=
    Store.pruneDanglingLinks_of_nil h.danglingLinks_eq_nil
  have hnext : s.next .save =
      (.ok (.answer (.blob (Settings.toJsonWith s.store.pruneDanglingLinks.2.fields s.active
        s.debug))), { s with store := s.store.pruneDanglingLinks.2 }) := rfl
  rw [hnext, hprune]
  rfl

/-- Sessions with the same settings transform every text alike. -/
theorem next_transform_congr {s : Session σ} {t : Session τ} (hs : s.Coherent) (ht : t.Coherent)
    (h : s.settings = t.settings) (text : Option String) :
    (s.next (.transform text)).1 = (t.next (.transform text)).1 := by
  have hrules : s.store.rules = t.store.rules :=
    Store.rules_congr (congrArg Settings.patterns h) (congrArg Settings.replacers h)
      (congrArg Settings.links h)
  rw [hs.next_transform, ht.next_transform, hrules]

section

variable {s : Session σ} (hs : s.settings.Consistent)

include hs

/-- A session that default links are not for comes back as it was, and no identifier is drawn. -/
theorem load_settings_of_done (hcoherent : s.Coherent)
    (hdone : s.store.links ≠ [] ∨ s.store.patterns = [] ∨ s.store.replacers = []) :
    WithoutDraw (fun _ _ ids => Settings.load s.settings.toJson ids) s.settings ∧
      ∀ (τ : Type) [IdSupply τ] (ids : τ), (load s.settings.toJson ids).settings = s.settings ∧
        (∀ text, ((load s.settings.toJson ids).next (.transform text)).1 =
          (s.next (.transform text)).1) ∧
        ((load s.settings.toJson ids).next .save).1 = (s.next .save).1 := by
  have hload : ∀ (τ : Type) [IdSupply τ] (ids : τ),
      Settings.load s.settings.toJson ids = (s.settings, ids) := by
    intro τ _ ids
    rw [Settings.load_toJson hs]
    exact Settings.withDefaultLinks_of_done ids fun hnil => hdone.resolve_left fun hne => hne hnil
  refine ⟨.of_eq hload, fun τ _ ids => ?_⟩
  have hsettings : (load s.settings.toJson ids).settings = s.settings := by
    rw [settings_load, hload]
  have hsound : s.store.Sound := ((settings_consistent_iff s).mp hs).1
  have hreload : (load s.settings.toJson ids).store.Sound := by
    rw [← hsettings, settings_consistent_iff] at hs
    exact hs.1
  have hloaded : (load s.settings.toJson ids).Coherent := (Opened.load _ ids).coherent
  refine ⟨hsettings, next_transform_congr hloaded hcoherent hsettings, ?_⟩
  rw [next_save hreload, next_save hsound, hsettings]

omit [IdSupply σ] in
theorem load_joinsByPlace (hl : s.store.links = []) (hp : s.store.patterns ≠ [])
    (hr : s.store.replacers ≠ []) (ids : τ) :
    (load s.settings.toJson ids).JoinsByPlace s := by
  have hids := hs.graph.patternIds
  have hload : (load s.settings.toJson ids).settings =
      (Settings.withDefaultLinks s.settings ids).1 := by
    rw [settings_load, Settings.load_toJson hs]
  rcases Settings.withDefaultLinks_cases s.settings ids with ⟨hdone, -⟩ | ⟨-, -, heq⟩
  · exact absurd (hdone hl) (not_or.mpr ⟨hp, hr⟩)
  rw [heq] at hload
  generalize load s.settings.toJson ids = t at hload ⊢
  have hlinks := congrArg Settings.links hload
  exact {
    patterns := congrArg Settings.patterns hload
    replacers := congrArg Settings.replacers hload
    active := congrArg Settings.active hload
    debug := congrArg Settings.debugMode hload
    count := (congrArg List.length hlinks).trans (Settings.alignedLinks_length [] [] ids hids)
    joined := fun i p r hpi hri => by
      obtain ⟨id, hlink⟩ := Settings.alignedLinks_getElem? [] [] ids hids hpi hri
      exact ⟨id, (congrArg (·[i]?) hlinks).trans hlink⟩ }

end

/-- A loaded session that has been worked on is saved and loaded again. With a link, without
patterns or without replacers it comes back as it was, and no identifier is drawn. Else its
fragments and switches come back, and the fragments are joined by place. -/
theorem save_load {s : Session σ} (h : s.Reached) :
    s.next .save = (.ok (.answer (.blob s.settings.toJson)), s) ∧
      ((s.store.links ≠ [] ∨ s.store.patterns = [] ∨ s.store.replacers = []) →
        WithoutDraw (fun _ _ ids => Settings.load s.settings.toJson ids) s.settings ∧
        ∀ (τ : Type) [IdSupply τ] (ids : τ), (load s.settings.toJson ids).settings = s.settings ∧
          (∀ text, ((load s.settings.toJson ids).next (.transform text)).1 =
            (s.next (.transform text)).1) ∧
          ((load s.settings.toJson ids).next .save).1 = (s.next .save).1) ∧
      (s.store.links = [] → s.store.patterns ≠ [] → s.store.replacers ≠ [] →
        ∀ (τ : Type) [IdSupply τ] (ids : τ), (load s.settings.toJson ids).JoinsByPlace s) := by
  have hs := h.settings_consistent
  obtain ⟨hsound, -⟩ := (settings_consistent_iff s).mp hs
  exact ⟨next_save hsound, load_settings_of_done hs h.coherent,
    fun hl hp hr τ _ ids => load_joinsByPlace hs hl hp hr ids⟩

/-- Edits that take away every link of the built-in rules and leave fragments of both kinds. -/
def unlinking : List Step :=
  [.setActive false, .edit (.removePattern "p-1"), .edit (.removeLink "l-10"),
    .edit (.removeReplacer "r-7"), .edit (.removeLink "l-12")]

theorem unlinking_save_load :
    let s : Session Counting := (load .null ⟨1⟩).after unlinking
    let t : Session Tokens := load s.settings.toJson ⟨1⟩
    s.Reached ∧ s.store.links = [] ∧
      s.next .save = (.ok (.answer (.blob s.settings.toJson)), s) ∧
      t.store.patterns = s.store.patterns ∧ t.store.links.length = 3 ∧ t.active = false := by
  have hsteps : ∀ step ∈ unlinking, step.hasIntegerIndex = true := by
    simp [unlinking, Step.hasIntegerIndex, Edit.hasIntegerIndex]
  have hreached : ((load .null (Counting.mk 1)).after unlinking).Reached :=
    ⟨.null, ⟨1⟩, unlinking, hsteps, rfl⟩
  obtain ⟨hlinks, hpatterns, hreplacers, hcount, hactive⟩ :
      let s := (load .null (Counting.mk 1)).after unlinking
      s.store.links = [] ∧ s.store.patterns ≠ [] ∧ s.store.replacers ≠ [] ∧
        min s.store.patterns.length s.store.replacers.length = 3 ∧ s.active = false := by
    decide +kernel
  -- From here on only what the steps have led to counts, not how.
  generalize (load .null (Counting.mk 1)).after unlinking = s at *
  obtain ⟨hsave, -, hunlinked⟩ := save_load hreached
  have hjoins := hunlinked hlinks hpatterns hreplacers Tokens (Tokens.mk 1)
  exact ⟨hreached, hlinks, hsave, hjoins.patterns, hjoins.count.trans hcount,
    hjoins.active.trans hactive⟩

end Session
end PasteRules
