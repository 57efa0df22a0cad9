import PasteRules.Proofs.Settings.FixedPoint

/-! Migrating or loading twice is doing it once, and the second time no identifier is drawn. -/
namespace PasteRules

/-- A supply that counts how often it was drawn from. -/
structure Metered (σ : Type) where
  supply : σ
  draws : Nat
  deriving DecidableEq, Repr

instance {σ : Type} [IdSupply σ] : IdSupply (Metered σ) where
  draw stem taken m :=
    let (id, supply) := IdSupply.draw stem taken m.supply
    (id, ⟨supply, m.draws + 1⟩)
  draw_not_mem stem taken m := IdSupply.draw_not_mem stem taken m.supply
  draw_form stem taken m := IdSupply.draw_form stem taken m.supply

/-- Whatever the supply, the result is `a`, the supply is left as it was, and it was not drawn from.
-/
def WithoutDraw {α : Type} (act : (σ : Type) → [IdSupply σ] → σ → α × σ) (a : α) : Prop :=
  ∀ (σ : Type) [IdSupply σ] (s : σ), act σ s = (a, s) ∧ (act (Metered σ) ⟨s, 0⟩).2.draws = 0

/-- A supply that is always left as it was is never drawn from, as a metered one would show. -/
theorem WithoutDraw.of_eq {α : Type} {act : (σ : Type) → [IdSupply σ] → σ → α × σ} {a : α}
    (h : ∀ (σ : Type) [IdSupply σ] (s : σ), act σ s = (a, s)) : WithoutDraw act a :=
  fun σ _ s => ⟨h σ s, by rw [h (Metered σ) ⟨s, 0⟩]⟩

namespace Settings

theorem ofJson_toJson (settings : Settings) : ofJson settings.toJson = settings := by
  cases settings with
  | mk patterns replacers links active debugMode =>
    change (⟨_, _, _, _, _⟩ : Settings) = _
    rw [mk.injEq]
    exact ⟨Fragment.map_ofJson_toJson patterns, Fragment.map_ofJson_toJson replacers,
      Link.map_ofJson_toJson links, rfl, rfl⟩

variable {σ : Type} [IdSupply σ]

/-- Migration sees the fields of a value by name. -/
theorem migrate_congr {blob other : Json} (h : ∀ name, blob.field? name = other.field? name)
    (s : σ) : migrate blob s = migrate other s := by
  have hfield : ∀ name, blob.field name = other.field name := fun name => by
    rw [Json.field, Json.field, h]
  have hform : Generation.ofJson blob = Generation.ofJson other := by
    unfold Generation.ofJson
    rw [hfield, hfield, h, h]
  simp only [migrate, hform, hfield]

/-- Settings in the present form have no use for the built-in ones. -/
theorem field?_overBuiltIn {blob : Json} (h : blob.IsConsistent) (name : String) :
    (overBuiltIn blob).field? name = blob.field? name := by
  have hsome := h.fields.isSome_iff
  obtain ⟨fields, rfl, hperm⟩ := h.fields
  change (Json.overlay builtIn fields).lookup name = fields.lookup name
  rw [Json.lookup_overlay name builtIn (hperm.nodup_iff.mpr (by decide))]
  cases hl : fields.lookup name with
  | some v => rfl
  | none =>
    have hbuiltIn : builtIn.map Prod.fst ⊆
        ["patterns", "replacers", "links", "formatVersion", "active", "debugMode"] := by
      simp [builtIn]
    have hmissing : ¬((Json.obj fields).field? name).isSome = true := by simp [Json.field?, hl]
    rw [Option.none_or, ← Option.not_isSome_iff_eq_none, Json.lookup_isSome_iff]
    exact fun hm => hmissing ((hsome name).mpr (hbuiltIn hm))

/-- Loading leaves consistent settings alone if they have links or lack a kind of fragments. -/
theorem load_eq_of_isConsistent {blob : Json} (h : blob.IsConsistent)
    (hdone : (ofJson blob).links = [] → (ofJson blob).patterns = [] ∨ (ofJson blob).replacers = [])
    (s : σ) : load blob s = (ofJson blob, s) := by
  rw [load_eq, migrate_congr (field?_overBuiltIn h), h.migrate_eq]
  exact withDefaultLinks_of_done s hdone

/-- Migrating what was migrated and loading what was loaded change nothing and draw nothing.
Migration leaves any consistent settings in the present form alone, so their graph of links survives
also where the lack of patterns hides it. -/
theorem migrate_load_idempotent (saved : Json) (s : σ) :
    WithoutDraw (fun _ _ s' => migrate (migrate saved s).1.toJson s') (migrate saved s).1 ∧
      WithoutDraw (fun _ _ s' => load (load saved s).1.toJson s') (load saved s).1 ∧
      ∀ blob : Json, blob.IsConsistent → ∃ settings : Settings, settings.toJson.Same blob ∧
        WithoutDraw (fun _ _ s' => migrate blob s') settings := by
  refine ⟨.of_eq fun τ _ s' => ?_, .of_eq fun τ _ s' => ?_, fun blob h => ?_⟩
  · rw [(migrate_consistent saved s).toJson.migrate_eq s', ofJson_toJson]
  · have hdone := load_done saved s
    rw [← ofJson_toJson (load saved s).1] at hdone
    rw [load_eq_of_isConsistent (load_consistent saved s).toJson hdone s', ofJson_toJson]
  · exact ⟨ofJson blob, h.same_toJson, .of_eq fun τ _ s' => h.migrate_eq s'⟩

/-- Consistent settings without patterns, with their fields in another order than saving gives. -/
def replacersAlone : Json :=
  .obj [("links", .arr []), ("patterns", .arr []),
    ("replacers", .arr [.obj [("text", .str "$&"), ("id", .str "r-1")]]),
    ("debugMode", .bool false), ("active", .bool true), ("formatVersion", .int 300)]

theorem replacersAlone_isConsistent : replacersAlone.IsConsistent where
  fields := ⟨_, rfl, by decide⟩
  formatVersion := rfl
  active := ⟨true, rfl⟩
  debugMode := ⟨false, rfl⟩
  patterns := ⟨[], rfl, by simp, by simp⟩
  replacers := by
    refine ⟨_, rfl, ?_, by simp⟩
    intro v hv
    obtain rfl : v = .obj [("text", .str "$&"), ("id", .str "r-1")] := by simpa using hv
    exact ⟨⟨_, rfl, by decide⟩, ⟨"r-1", rfl, by decide⟩, ⟨"$&", rfl⟩⟩
  links := ⟨[], rfl, by simp, by simp⟩
  pairs := List.nodup_nil
  ends := by simp [replacersAlone, Json.field, Json.items, Json.field?]

theorem replacersAlone_fixed :
    replacersAlone.IsConsistent ∧ ∃ settings : Settings, settings.toJson.Same replacersAlone ∧
      WithoutDraw (fun _ _ s' => migrate replacersAlone s') settings :=
  ⟨replacersAlone_isConsistent,
    (migrate_load_idempotent .null (Counting.mk 1)).2.2 replacersAlone replacersAlone_isConsistent⟩

end Settings
end PasteRules
