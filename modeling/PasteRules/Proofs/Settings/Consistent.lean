import PasteRules.Proofs.Settings.Entities

/-! Settings that hold together. Migration and loading give no others, whatever was saved. -/
namespace PasteRules.Settings

/-- The entities form a sound graph, and nothing has an empty identifier. -/
structure Consistent (settings : Settings) : Prop where
  graph : SoundGraph settings.patterns settings.replacers settings.links
  patterns : ∀ p ∈ settings.patterns, p.id ≠ ""
  replacers : ∀ r ∈ settings.replacers, r.id ≠ ""
  links : ∀ l ∈ settings.links, l.id ≠ ""

variable {σ : Type} [IdSupply σ]

def migratedLinks (blob : Json) (patterns replacers : List Fragment) (s : σ) : List Link × σ :=
  match Generation.ofJson blob with
  | .linkGraph => graphLinks patterns replacers (blob.field "links").items s
  | _ =>
    alignedLinks patterns replacers (blob.field "enabled").items (blob.field "comments").items s

theorem migratedLinks_sound (blob : Json) {patterns replacers : List Fragment} (s : σ)
    (hp : (patterns.map Fragment.id).Nodup) (hr : (replacers.map Fragment.id).Nodup) :
    SoundGraph patterns replacers (migratedLinks blob patterns replacers s).1 := by
  unfold migratedLinks
  split
  · exact graphLinks_sound hp hr
  · exact alignedLinks_sound hp hr

theorem migratedLinks_ne_empty {blob : Json} {patterns replacers : List Fragment} {s : σ}
    {l : Link} (h : l ∈ (migratedLinks blob patterns replacers s).1) : l.id ≠ "" := by
  unfold migratedLinks at h
  split at h
  · exact graphLinks_ne_empty h
  · exact alignedLinks_ne_empty h

/-- Migration takes the patterns first, then the replacers, then the links. -/
theorem migrate_eq (blob : Json) (s : σ) :
    migrate blob s =
      let ps := fragments Identifier.patternStem (blob.field "patterns").items s
      let rs := fragments Identifier.replacerStem (blob.field "replacers").items ps.2
      let ls := migratedLinks blob ps.1 rs.1 rs.2
      (⟨ps.1, rs.1, ls.1, (blob.field "active").flag?.getD true,
        (blob.field "debugMode").flag?.getD false⟩, ls.2) := by
  rw [← Json.flagOr_eq, ← Json.flagOr_eq]
  unfold migrate migratedLinks
  obtain ⟨patterns, s₁⟩ := fragments Identifier.patternStem (blob.field "patterns").items s
  obtain ⟨replacers, s₂⟩ := fragments Identifier.replacerStem (blob.field "replacers").items s₁
  cases Generation.ofJson blob <;> rfl

theorem migrate_links (blob : Json) (s : σ) :
    ∃ s' : σ, (migrate blob s).1.links =
      (migratedLinks blob (migrate blob s).1.patterns (migrate blob s).1.replacers s').1 := by
  rw [migrate_eq]
  exact ⟨_, rfl⟩

theorem migrate_consistent (blob : Json) (s : σ) : (migrate blob s).1.Consistent := by
  rw [migrate_eq]
  exact {
    graph := migratedLinks_sound blob _ (fragments_nodup ..) (fragments_nodup ..)
    patterns := fun _ h => fragments_ne_empty h
    replacers := fun _ h => fragments_ne_empty h
    links := fun _ h => migratedLinks_ne_empty h }

theorem withDefaultLinks_of_done {settings : Settings} (s : σ)
    (h : settings.links = [] → settings.patterns = [] ∨ settings.replacers = []) :
    withDefaultLinks settings s = (settings, s) := by
  have hdone : (!settings.links.isEmpty || settings.patterns.isEmpty ||
      settings.replacers.isEmpty) = true := by
    by_cases hl : settings.links = []
    · rcases h hl with hp | hr
      · simp [hp]
      · simp [hr]
    · simp [hl]
  simp [withDefaultLinks, hdone]

/-- Default links are given to settings that have fragments of both kinds but no link. -/
theorem withDefaultLinks_cases (settings : Settings) (s : σ) :
    ((settings.links = [] → settings.patterns = [] ∨ settings.replacers = []) ∧
        withDefaultLinks settings s = (settings, s)) ∨
      (settings.patterns ≠ [] ∧ settings.replacers ≠ [] ∧
        withDefaultLinks settings s =
          let ls := alignedLinks settings.patterns settings.replacers [] [] s
          ({ settings with links := ls.1 }, ls.2)) := by
  by_cases hdone : settings.links = [] → settings.patterns = [] ∨ settings.replacers = []
  · exact .inl ⟨hdone, withDefaultLinks_of_done s hdone⟩
  · obtain ⟨hl, hp, hr⟩ :
        settings.links = [] ∧ settings.patterns ≠ [] ∧ settings.replacers ≠ [] := by
      simpa using hdone
    exact .inr ⟨hp, hr, by simp [withDefaultLinks, hl, hp, hr]⟩

theorem withDefaultLinks_consistent {settings : Settings} (h : settings.Consistent) (s : σ) :
    (withDefaultLinks settings s).1.Consistent := by
  rcases withDefaultLinks_cases settings s with ⟨-, heq⟩ | ⟨-, -, heq⟩
  · rw [heq]
    exact h
  · rw [heq]
    exact {
      graph := alignedLinks_sound h.graph.patternIds h.graph.replacerIds
      patterns := h.patterns
      replacers := h.replacers
      links := fun _ hm => alignedLinks_ne_empty hm }

theorem withDefaultLinks_done (settings : Settings) (s : σ) :
    (withDefaultLinks settings s).1.links = [] →
      (withDefaultLinks settings s).1.patterns = [] ∨
        (withDefaultLinks settings s).1.replacers = [] := by
  rcases withDefaultLinks_cases settings s with ⟨hdone, heq⟩ | ⟨hp, hr, heq⟩
  · rw [heq]
    exact hdone
  -- The first pair is never a repetition, so there is a link where both kinds are there.
  · rw [heq]
    exact fun hnil => absurd hnil (alignedLinks_ne_nil hp hr)

theorem load_eq (saved : Json) (s : σ) :
    load saved s =
      withDefaultLinks (migrate (overBuiltIn saved) s).1 (migrate (overBuiltIn saved) s).2 := rfl

theorem load_consistent (saved : Json) (s : σ) : (load saved s).1.Consistent :=
  withDefaultLinks_consistent (migrate_consistent ..) _

/-- Loaded settings have links unless they lack one kind of fragments. -/
theorem load_done (saved : Json) (s : σ) :
    (load saved s).1.links = [] →
      (load saved s).1.patterns = [] ∨ (load saved s).1.replacers = [] :=
  withDefaultLinks_done _ _

end PasteRules.Settings
