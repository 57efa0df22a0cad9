import PasteRules.Proofs.Settings.PresentForm

/-! Consistent settings in the present form are what migration leaves alone. No identifier is drawn
for them, whichever way their shape sends them. -/
namespace PasteRules

namespace Settings

def ofJson (blob : Json) : Settings where
  patterns := (blob.field "patterns").items.map .ofJson
  replacers := (blob.field "replacers").items.map .ofJson
  links := (blob.field "links").items.map .ofJson
  active := (blob.field "active").flag?.getD true
  debugMode := (blob.field "debugMode").flag?.getD false

end Settings

namespace Json

variable {v : Json}

/-! ### Records -/

theorem HasId.ownId? (h : v.HasId) : Settings.ownId? v = some (v.field "id").shown := by
  obtain ⟨id, hid, hne⟩ := h
  simp [Settings.ownId?, hid, hne, shown]

theorem HasId.field_id (h : v.HasId) : v.field "id" = .str (v.field "id").shown := by
  obtain ⟨id, hid, -⟩ := h
  simp [hid, shown]

theorem HasId.isObject (h : v.HasId) : v.isObject = true := by
  obtain ⟨id, hid, -⟩ := h
  exact isObject_of_field hid

theorem HasId.entryText (h : v.HasId) : v.entryText = (Fragment.ofJson v).text :=
  entryText_of_isObject h.isObject

theorem IsFragment.same (h : v.IsFragment) : (Fragment.ofJson v).toJson.Same v := by
  refine (Fragment.hasFields_toJson _).same h.fields fun name hname => ?_
  obtain ⟨text, ht⟩ := h.text
  have hid : (Fragment.ofJson v).toJson.field "id" = v.field "id" := h.id.field_id.symm
  have htext : (Fragment.ofJson v).toJson.field "text" = v.field "text" := by
    change Json.str (v.field "text").entryText = _
    rw [ht]
    rfl
  rcases List.mem_cons.mp hname with rfl | hname
  · exact hid ▸ .refl _
  · obtain rfl := List.mem_singleton.mp hname
    exact htext ▸ .refl _

/-- A link's record with string ends is saved again as it was. -/
theorem IsLink.same (h : v.IsLink) {p r : String} (hp : v.field "patternId" = .str p)
    (hr : v.field "replacerId" = .str r) : (Link.ofJson v).toJson.Same v := by
  refine (Link.hasFields_toJson _).same h.fields fun name hname => ?_
  obtain ⟨enabled, he⟩ := h.enabled
  obtain ⟨comment, hc⟩ := h.comment
  suffices hfield : (Link.ofJson v).toJson.field name = v.field name from hfield ▸ .refl _
  simp only [List.mem_cons, List.not_mem_nil, or_false] at hname
  rcases hname with rfl | rfl | rfl | rfl | rfl
  · exact h.id.field_id.symm
  · rw [hp]
    change Json.str (v.field "patternId").shown = _
    rw [hp]
    rfl
  · rw [hr]
    change Json.str (v.field "replacerId").shown = _
    rw [hr]
    rfl
  · rw [he]
    change Json.bool ((v.field "enabled").flagOr true) = _
    rw [he]
    rfl
  · rw [hc]
    change Json.str ((v.field "comment").stringOr "") = _
    rw [hc]
    rfl

/-! ### Lists of records -/

section

variable {IsEntry : Json → Prop} {name : String}

theorem Lists.field_eq (h : v.Lists IsEntry name) : v.field name = .arr (v.field name).items := by
  obtain ⟨items, hfield, -⟩ := h
  rw [hfield]
  rfl

theorem Lists.entry (h : v.Lists IsEntry name) : ∀ x ∈ (v.field name).items, IsEntry x := by
  obtain ⟨items, hfield, hentry, -⟩ := h
  rw [hfield]
  exact hentry

theorem Lists.nodup (h : v.Lists IsEntry name) :
    ((v.field name).items.map (·.field "id")).Nodup := by
  obtain ⟨items, hfield, -, hn⟩ := h
  rw [hfield]
  exact hn

theorem Lists.same {α : Type} {read : Json → α} {save : α → Json} (h : v.Lists IsEntry name)
    (hsame : ∀ x ∈ (v.field name).items, (save (read x)).Same x) :
    (Json.arr (((v.field name).items.map read).map save)).Same (v.field name) := by
  obtain ⟨items, hfield, -⟩ := h
  rw [hfield] at hsame ⊢
  change (Json.arr ((items.map read).map save)).Same (.arr items)
  refine .arr ?_
  rw [List.map_map, List.forall₂_map_left_iff, List.forall₂_same]
  exact hsame

end

theorem nodup_shown {items : List Json} (h : ∀ x ∈ items, x.HasId)
    (hn : (items.map (·.field "id")).Nodup) :
    (items.map fun x => (x.field "id").shown).Nodup := by
  have hstr : items.map (·.field "id") =
      (items.map fun x => (x.field "id").shown).map Json.str := by
    rw [List.map_map]
    exact List.map_congr_left fun x hx => (h x hx).field_id
  rw [hstr] at hn
  exact hn.of_map _

end Json

namespace Settings

variable {σ : Type} [IdSupply σ]

/-- Records with distinct identifiers keep them, and nothing is drawn. -/
theorem fragments_eq (stem : String) {items : List Json} (h : ∀ v ∈ items, v.HasId)
    (hn : (items.map (·.field "id")).Nodup) (s : σ) :
    fragments stem items s = (items.map .ofJson, s) := by
  have hown : items.map ownId? = (items.map fun v => (v.field "id").shown).map some := by
    rw [List.map_map]
    exact List.map_congr_left fun v hv => (h v hv).ownId?
  have hassign := assignIds_map_some stem (Json.nodup_shown h hn) s
  have hzip : List.zipWith (fun id entry => Fragment.mk id entry.entryText)
      (items.map fun v => (v.field "id").shown) items = items.map .ofJson := by
    rw [List.zipWith_map_left, List.zipWith_self]
    exact List.map_congr_left fun v hv => by rw [(h v hv).entryText]; rfl
  simp only [fragments, hown, hassign, hzip]

variable {patterns replacers : List Fragment}

/-- Links that join present ends, each pair once, are taken over, and nothing is drawn. -/
theorem graphLinks_eq {items : List Json} (h : ∀ v ∈ items, v.IsLink)
    (hn : (items.map (·.field "id")).Nodup)
    (hends : ∀ v ∈ items, ends? patterns replacers v = some (Link.ofJson v).pair)
    (hpairs : (items.map fun v => (Link.ofJson v).pair).Nodup) (s : σ) :
    graphLinks patterns replacers items s = (items.map .ofJson, s) := by
  have hall : items.filterMap (ends? patterns replacers) =
      items.map fun v => (Link.ofJson v).pair := by
    rw [List.filterMap_congr hends, ← List.filterMap_eq_map]
    rfl
  have huse : usableLinks patterns replacers [] items =
      items.map fun v => (v, (Link.ofJson v).pair) := by
    rw [usableLinks_eq_filterMap (hall ▸ hpairs) (by simp), ← List.filterMap_eq_map]
    exact List.filterMap_congr fun v hv => by rw [hends v hv]; rfl
  have hown : (items.map fun v => (v, (Link.ofJson v).pair)).map (ownId? ·.1) =
      (items.map fun v => (v.field "id").shown).map some := by
    simp only [List.map_map]
    exact List.map_congr_left fun v hv => (h v hv).id.ownId?
  have hassign := assignIds_map_some Identifier.linkStem
    (Json.nodup_shown (fun v hv => (h v hv).id) hn) s
  simp only [graphLinks, huse, hown, hassign, List.zipWith_map_left, List.zipWith_map_right,
    List.zipWith_self]
  rfl

end Settings

/-! ### Whole settings -/

namespace Json.IsConsistent

open Settings

variable {blob : Json} (h : blob.IsConsistent)

include h

theorem ends?_eq {l : Json} (hl : l ∈ (blob.field "links").items) :
    ends? (ofJson blob).patterns (ofJson blob).replacers l = some (Link.ofJson l).pair := by
  have hmem : ∀ (items : List Json) (id : String), .str id ∈ items.map (·.field "id") →
      Fragment.has (items.map .ofJson) id = true := by
    intro items id hid
    obtain ⟨v, hv, he⟩ := List.mem_map.mp hid
    refine (Fragment.has_iff _ id).mpr (List.mem_map.mpr ⟨.ofJson v, List.mem_map_of_mem hv, ?_⟩)
    change (v.field "id").shown = id
    rw [he]
    rfl
  obtain ⟨p, r, hp, hr, hps, hrs⟩ := h.ends l hl
  have hpair : (Link.ofJson l).pair = (p, r) := by
    simp [Link.pair, Link.ofJson, hp, hr, shown]
  rw [hpair]
  simp [ends?, hp, hr, string?, ofJson, hmem _ _ hps, hmem _ _ hrs]

theorem nodup_pairs : ((blob.field "links").items.map fun l => (Link.ofJson l).pair).Nodup := by
  have hstr :
      (blob.field "links").items.map (fun l => (l.field "patternId", l.field "replacerId")) =
      ((blob.field "links").items.map fun l => (Link.ofJson l).pair).map
        fun x => (Json.str x.1, Json.str x.2) := by
    rw [List.map_map]
    refine List.map_congr_left fun l hl => ?_
    obtain ⟨p, r, hp, hr, -⟩ := h.ends l hl
    simp [Link.pair, Link.ofJson, hp, hr, shown]
  exact (hstr ▸ h.pairs).of_map _

theorem generation_eq (hne : (blob.field "patterns").items ≠ []) :
    Generation.ofJson blob = .linkGraph := by
  obtain ⟨v, rest, hitems⟩ := List.exists_cons_of_ne_nil hne
  have hv : v.IsFragment := h.patterns.entry v (hitems ▸ List.mem_cons_self)
  have hrecord : v.isRecord = true := (hv.fields.isSome_iff "text").mpr (by simp)
  unfold Generation.ofJson
  rw [h.links.field_eq, hitems]
  simp [hrecord]

theorem links_eq_nil (hnil : (blob.field "patterns").items = []) :
    (blob.field "links").items = [] := by
  refine List.eq_nil_iff_forall_not_mem.mpr fun l hl => ?_
  obtain ⟨p, r, -, -, hp, -⟩ := h.ends l hl
  simp [idsOf, hnil] at hp

variable {σ : Type} [IdSupply σ]

/-- The links are kept: as those of a graph, or as none at all where there are no patterns and so no
place to join. -/
theorem migratedLinks_eq (s : σ) :
    migratedLinks blob (ofJson blob).patterns (ofJson blob).replacers s =
      ((ofJson blob).links, s) := by
  by_cases hne : (blob.field "patterns").items = []
  -- These settings look like those of an older form, and their links are built anew: none, as
  -- before.
  · have hpatterns : (ofJson blob).patterns = [] := by simp [ofJson, hne]
    have hlinks : (ofJson blob).links = [] := by simp [ofJson, h.links_eq_nil hne]
    have hform : Generation.ofJson blob ≠ .linkGraph := by
      simp [Generation.ofJson, hne]
      split <;> simp
    rw [hpatterns, hlinks]
    unfold migratedLinks
    split
    · contradiction
    · rfl
  · have hgraph := graphLinks_eq h.links.entry h.links.nodup
      (fun l hl => h.ends?_eq hl) h.nodup_pairs s
    simp only [migratedLinks, h.generation_eq hne, hgraph]
    rfl

theorem migrate_eq (s : σ) : migrate blob s = (ofJson blob, s) := by
  have hp : fragments Identifier.patternStem (blob.field "patterns").items s =
      ((ofJson blob).patterns, s) :=
    fragments_eq _ (fun v hv => (h.patterns.entry v hv).id) h.patterns.nodup s
  have hr : fragments Identifier.replacerStem (blob.field "replacers").items s =
      ((ofJson blob).replacers, s) :=
    fragments_eq _ (fun v hv => (h.replacers.entry v hv).id) h.replacers.nodup s
  rw [Settings.migrate_eq]
  simp only [hp, hr, h.migratedLinks_eq s]
  rfl

omit [IdSupply σ]

/-- Consistent settings are saved again as they were, but for the order of fields. -/
theorem same_toJson : (ofJson blob).toJson.Same blob := by
  refine (hasFields_toJson _).same h.fields fun name hname => ?_
  obtain ⟨active, ha⟩ := h.active
  obtain ⟨debugMode, hd⟩ := h.debugMode
  simp only [List.mem_cons, List.not_mem_nil, or_false] at hname
  rcases hname with rfl | rfl | rfl | rfl | rfl | rfl
  · exact h.patterns.same fun v hv => (h.patterns.entry v hv).same
  · exact h.replacers.same fun v hv => (h.replacers.entry v hv).same
  · refine h.links.same fun v hv => ?_
    obtain ⟨p, r, hp, hr, -⟩ := h.ends v hv
    exact (h.links.entry v hv).same hp hr
  · exact h.formatVersion ▸ .refl _
  · change (Json.bool ((blob.field "active").flag?.getD true)).Same _
    rw [ha]
    exact .refl _
  · change (Json.bool ((blob.field "debugMode").flag?.getD false)).Same _
    rw [hd]
    exact .refl _

end Json.IsConsistent
end PasteRules
