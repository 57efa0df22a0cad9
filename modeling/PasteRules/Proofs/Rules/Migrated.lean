import PasteRules.Proofs.Rules.Gather
import PasteRules.Proofs.Settings.Strays
import PasteRules.Proofs.Store.Runs

/-! A saved graph is read in two ways: as it is, or migrated first. Where identifiers tell its
records apart, and its links name their ends and join no pair twice, both come to the same rules. -/
namespace PasteRules

def savedRules (blob : Json) : Except Fault (List Rule) := do (← Store.ofJson blob ()).rules

namespace Json

/-- A graph whose records bring identifiers of their own, and whose link records name their ends and
join no pair twice. The ends need not be there, and a link entry need not be a record. -/
structure IsTidyGraph (blob : Json) : Prop where
  form : Generation.ofJson blob = .linkGraph
  listed : ∃ items, blob.field "replacers" = .arr items
  patterns : blob.Identified "patterns"
  replacers : blob.Identified "replacers"
  ends : ∀ entry ∈ (blob.field "links").items, entry.isObject = true → ∃ p r, entry.Joins p r
  pairs : (((blob.field "links").items.filter isObject).map
    fun entry => (entry.field "patternId", entry.field "replacerId")).Nodup

/-- No pattern that a link is to use fails to compile for a reason that no message covers. -/
def CompilesOrTells (blob : Json) : Prop :=
  ∀ entry ∈ (blob.field "links").items, ∀ v ∈ (blob.field "patterns").items, ∀ p r : String,
    entry.Joins p r → v.field "id" = .str p → .str r ∈ blob.idsOf "replacers" →
      (entry.field "enabled").flag?.getD true = true →
        ∃ result, compilePattern v.entryText = .ok result

theorem Joins.isObject {entry : Json} {p r : String} (h : entry.Joins p r) :
    entry.isObject = true := isObject_of_field h.1

theorem Joins.link {entry : Json} {p r : String} (h : entry.Joins p r) :
    (Link.ofJson entry).patternId = p ∧ (Link.ofJson entry).replacerId = r := by
  simp [Link.ofJson, h.1, h.2, shown]

end Json

/-- A link has the rule of the entry that describes it. -/
theorem Json.Describes.linkRule_eq {patterns replacers : List Fragment} {entry : Json} {l : Link}
    (h : entry.Describes l) :
    linkRule patterns replacers l = linkRule patterns replacers (.ofJson entry) := by
  obtain ⟨hp, hr⟩ := h.joins.link
  have henabled : (Link.ofJson entry).enabled = l.enabled :=
    (Json.flagOr_eq _ _).trans h.enabled.symm
  unfold linkRule
  rw [hp, hr, henabled]

namespace Settings

theorem ends?_eq_none {patterns replacers : List Fragment} {v : Json} (h : v.isObject = false) :
    ends? patterns replacers v = none := by
  rw [Option.eq_none_iff_forall_ne_some]
  rintro ⟨p, r⟩ hends
  obtain ⟨hjoins, -⟩ := ends?_eq_some_iff.mp hends
  rw [hjoins.isObject] at h
  cases h

theorem filterMap_records {α : Type} {f : Json → Option α}
    (h : ∀ v, v.isObject = false → f v = none) (entries : List Json) :
    (entries.filter Json.isObject).filterMap f = entries.filterMap f := by
  rw [List.filterMap_filter]
  refine List.filterMap_congr fun v _ => ?_
  cases hv : v.isObject with
  | true => rfl
  | false => exact (h v hv).symm

end Settings

theorem Json.eq_arr_items {v : Json} (h : v.items ≠ []) : v = .arr v.items := by
  cases v with
  | arr items => rfl
  | _ => exact absurd rfl h

theorem Generation.lists_of_linkGraph {blob : Json} (h : Generation.ofJson blob = .linkGraph) :
    blob.field "patterns" = .arr (blob.field "patterns").items ∧
      blob.field "links" = .arr (blob.field "links").items := by
  unfold Generation.ofJson at h
  dsimp only at h
  split at h
  · next first rest links hpatterns hlinks =>
    have hne : (blob.field "patterns").items ≠ [] := by simp [hpatterns]
    refine ⟨Json.eq_arr_items hne, ?_⟩
    rw [hlinks]
    rfl
  · rw [if_neg Bool.false_ne_true] at h
    split at h <;> cases h

theorem Json.Identified.records_eq {blob : Json} {name : String} (h : blob.Identified name)
    (hlist : blob.field name = .arr (blob.field name).items) :
    (blob.field name).records = .ok (blob.field name).items := by
  have hall : (blob.field name).items.filter isObject = (blob.field name).items :=
    List.filter_eq_self.mpr fun v hv => (h.hasId v hv).isObject
  rw [hlist, Store.records_arr]
  exact congrArg Except.ok hall

theorem Json.Identified.textOf?_ofJson {blob : Json} {name : String} (h : blob.Identified name)
    {id text : String} :
    Fragment.textOf? ((blob.field name).items.map .ofJson) id = some text ↔
      ∃ v ∈ (blob.field name).items, v.field "id" = .str id ∧ v.entryText = text := by
  have hids : (((blob.field name).items.map Fragment.ofJson).map Fragment.id).Nodup := by
    rw [List.map_map]
    exact nodup_shown h.hasId h.nodup
  rw [Fragment.textOf?_eq_some_iff hids]
  constructor
  · rintro ⟨f, hf, rfl, rfl⟩
    obtain ⟨v, hv, rfl⟩ := List.mem_map.mp hf
    exact ⟨v, hv, (h.hasId v hv).field_id, (h.hasId v hv).entryText⟩
  · rintro ⟨v, hv, hid, rfl⟩
    refine ⟨.ofJson v, List.mem_map_of_mem hv, ?_, (h.hasId v hv).entryText.symm⟩
    change (v.field "id").shown = id
    rw [hid]
    rfl

namespace Json.IsTidyGraph

open Settings

section

variable {blob : Json} (h : blob.IsTidyGraph)

include h

/-- Read as it is, a graph gives all its records. -/
theorem store_eq : Store.ofJson blob () =
    .ok ⟨(ofJson blob).patterns, (ofJson blob).replacers,
      ((blob.field "links").items.filter isObject).map .ofJson, 0, ()⟩ := by
  obtain ⟨hpatterns, hlinks⟩ := Generation.lists_of_linkGraph h.form
  obtain ⟨replacers, hreplacers⟩ := h.listed
  have hobject : blob.isObject = true := by
    cases blob with
    | obj fields => rfl
    | _ => cases hreplacers
  have hps := h.patterns.records_eq hpatterns
  have hrs := h.replacers.records_eq (by rw [hreplacers]; rfl)
  have hls : (blob.field "links").records = .ok ((blob.field "links").items.filter isObject) := by
    rw [hlinks, Store.records_arr]
    rfl
  simp only [Store.ofJson, hobject, hps, hrs, hls, bind, Except.bind]
  rfl

theorem savedRules_unlinked : (savedRules blob).map (List.map Rule.unlinked) =
    gather (linkRule (ofJson blob).patterns (ofJson blob).replacers ∘ Link.ofJson)
      ((blob.field "links").items.filter isObject) := by
  have hrules : savedRules blob = (Store.ofJson blob ()).bind Store.rules := rfl
  rw [hrules, h.store_eq]
  change (Store.rules _).map _ = _
  rw [Store.rules_unlinked, gather_map]

/-- No two link entries have the same ends, if these are there. -/
theorem nodup_ends : ((blob.field "links").items.filterMap
    (ends? (ofJson blob).patterns (ofJson blob).replacers)).Nodup := by
  -- What is no record has no ends, so only the records count.
  rw [← filterMap_records fun v hv => ends?_eq_none hv, List.Nodup, List.pairwise_filterMap]
  refine (List.pairwise_map.mp h.pairs).imp ?_
  rintro v w hne ⟨p, r⟩ hp ⟨p', r'⟩ hp' he
  obtain ⟨hv, -⟩ := ends?_eq_some_iff.mp hp
  obtain ⟨hw, -⟩ := ends?_eq_some_iff.mp hp'
  obtain ⟨rfl, rfl⟩ := Prod.mk.inj he
  exact hne (by rw [hv.1, hv.2, hw.1, hw.2])

/-- A link record that migration drops has no rule, so the used ones give all rules there are. -/
theorem gather_usedEntries :
    gather (linkRule (ofJson blob).patterns (ofJson blob).replacers ∘ Link.ofJson)
      ((blob.field "links").items.filter isObject) =
    gather (fun x => linkRule (ofJson blob).patterns (ofJson blob).replacers (.ofJson x.1))
      (usedEntries (ofJson blob).patterns (ofJson blob).replacers (blob.field "links").items) := by
  rw [usedEntries, usableLinks_eq_filterMap h.nodup_ends (by simp),
    ← filterMap_records fun v hv => by rw [ends?_eq_none hv]; rfl]
  refine gather_filterMap fun v hv => ?_
  obtain ⟨hmem, hobject⟩ := List.mem_filter.mp hv
  cases hends : ends? (ofJson blob).patterns (ofJson blob).replacers v with
  | some pair => rfl
  | none =>
    -- The record names its ends, so it was dropped because one of them is missing.
    obtain ⟨p, r, hjoins⟩ := h.ends v hmem hobject
    obtain ⟨hp, hr⟩ := hjoins.link
    refine linkRule_of_dangling fun hthere => ?_
    rw [hp, hr] at hthere
    have hsome := ends?_eq_some_iff.mpr ⟨hjoins, hthere⟩
    rw [hends] at hsome
    cases hsome

/-- Migration draws no identifier that rules could see: apart from their links they stay the same,
and so does the fault if there is one. -/
theorem savedRules_migrate {σ : Type} [IdSupply σ] (s : σ) :
    (savedRules (migrate blob s).1.toJson).map (List.map Rule.unlinked) =
      (savedRules blob).map (List.map Rule.unlinked) := by
  have hmigrated : savedRules (migrate blob s).1.toJson =
      ((migrate blob s).1.toStore ()).rules := by
    unfold savedRules
    rw [Store.ofJson_toJson]
    rfl
  obtain ⟨hpatterns, hreplacers⟩ := migrate_fragments_of_identified h.patterns h.replacers s
  obtain ⟨s', hlinks⟩ := migrate_links_of_graph h.form s
  rw [hmigrated, Store.rules_unlinked, h.savedRules_unlinked, h.gather_usedEntries]
  change gather (linkRule (migrate blob s).1.patterns (migrate blob s).1.replacers)
    (migrate blob s).1.links = _
  rw [hlinks, hpatterns, hreplacers]
  exact gather_of_forall₂ ((graphLinks_forall₂ _ _ _ s').imp fun l x hl => hl.linkRule_eq)

/-- The rules are there unless compiling a pattern that a link is to use fails without a message. -/
theorem savedRules_isOk_iff :
    (∃ rules, savedRules blob = .ok rules) ↔ blob.CompilesOrTells := by
  have hmap : (∃ rules, savedRules blob = .ok rules) ↔
      ∃ rules, (savedRules blob).map (List.map Rule.unlinked) = .ok rules := by
    cases savedRules blob <;> simp [Except.map]
  rw [hmap, h.savedRules_unlinked, gather_isOk_iff]
  constructor
  · intro hok entry hentry v hv p r hjoins hid hreplacer henabled
    have hrule := hok entry (List.mem_filter.mpr ⟨hentry, hjoins.isObject⟩)
    obtain ⟨hp, hr⟩ := hjoins.link
    obtain ⟨w, hw, hwid⟩ := List.mem_map.mp hreplacer
    have hpattern := h.patterns.textOf?_ofJson.mpr ⟨v, hv, hid, rfl⟩
    have htemplate := h.replacers.textOf?_ofJson.mpr ⟨w, hw, hwid, rfl⟩
    rw [← hp] at hpattern
    rw [← hr] at htemplate
    exact linkRule_isOk_iff.mp hrule _ _ hpattern htemplate
      ((Json.flagOr_eq _ _).trans henabled)
  · intro hcompiles entry hrecord
    obtain ⟨hentry, hobject⟩ := List.mem_filter.mp hrecord
    obtain ⟨p, r, hjoins⟩ := h.ends entry hentry hobject
    obtain ⟨hp, hr⟩ := hjoins.link
    refine linkRule_isOk_iff.mpr fun pattern template hpattern htemplate henabled => ?_
    rw [hp] at hpattern
    rw [hr] at htemplate
    obtain ⟨v, hv, hid, rfl⟩ := h.patterns.textOf?_ofJson.mp hpattern
    obtain ⟨w, hw, hwid, -⟩ := h.replacers.textOf?_ofJson.mp htemplate
    exact hcompiles entry hentry v hv p r hjoins hid (List.mem_map.mpr ⟨w, hw, hwid⟩)
      ((Json.flagOr_eq _ _).symm.trans henabled)

end

/-- A graph means the same whether it is read as it was saved or migrated first: the rules agree in
their order, their patterns and their templates, and so does the fault where there is one. There are
rules unless a pattern that a link is to use fails to compile without a message. -/
theorem migrate_means_same {blob : Json} (h : blob.IsTidyGraph) {σ : Type} [IdSupply σ] (s : σ) :
    (savedRules (migrate blob s).1.toJson).map (List.map Rule.unlinked) =
        (savedRules blob).map (List.map Rule.unlinked) ∧
      (∀ text, (savedRules (migrate blob s).1.toJson).map (Rule.transform · text) =
        (savedRules blob).map (Rule.transform · text)) ∧
      ((∃ rules, savedRules blob = .ok rules) ↔ blob.CompilesOrTells) := by
  have hrules := h.savedRules_migrate s
  refine ⟨hrules, fun text => ?_, h.savedRules_isOk_iff⟩
  have hsaved := Rule.map_transform_unlinked (savedRules blob) text id
  have hmigrated := Rule.map_transform_unlinked (savedRules (migrate blob s).1.toJson) text id
  rw [hrules] at hmigrated
  exact hmigrated.symm.trans hsaved

end Json.IsTidyGraph

/-- Texts of many kinds, and links of which one has no identifier, three share theirs, one lacks an
end, and some have flags and comments of wrong kinds. -/
def tangledGraph : Json :=
  .obj [("patterns", .arr [.obj [("id", .str "p-1"), ("text", .int 7)],
      .obj [("text", .obj [("text", .str "a+")]), ("id", .str "p-2")]]),
    ("replacers", .arr [.obj [("id", .str "r-1")],
      .obj [("id", .str "r-2"), ("text", .str "<$&>")]]),
    ("links", .arr [.str "p-1",
      .obj [("patternId", .str "p-2"), ("replacerId", .str "r-2"), ("enabled", .str "no")],
      .obj [("id", .str "l-1"), ("patternId", .str "p-3"), ("replacerId", .str "r-1")],
      .obj [("id", .str "l-1"), ("patternId", .str "p-1"), ("replacerId", .str "r-1"),
        ("comment", .int 3)],
      .obj [("id", .str "l-1"), ("patternId", .str "p-1"), ("replacerId", .str "r-2"),
        ("enabled", .bool false)],
      .null])]

theorem tangledGraph_isTidy : tangledGraph.IsTidyGraph where
  form := rfl
  listed := ⟨_, rfl⟩
  patterns.hasId := by
    simp [tangledGraph, Json.field, Json.field?, Json.items, Json.HasId, List.lookup_cons]
  patterns.nodup := by
    change [Json.str "p-1", .str "p-2"].Nodup
    simp
  replacers.hasId := by
    simp [tangledGraph, Json.field, Json.field?, Json.items, Json.HasId, List.lookup_cons]
  replacers.nodup := by
    change [Json.str "r-1", .str "r-2"].Nodup
    simp
  ends := by
    simp [tangledGraph, Json.field, Json.field?, Json.items, Json.Joins, Json.isObject,
      List.lookup_cons]
  pairs := by
    change [(Json.str "p-2", Json.str "r-2"), (.str "p-3", .str "r-1"), (.str "p-1", .str "r-1"),
      (.str "p-1", .str "r-2")].Nodup
    simp

theorem tangledGraph_means_same :
    tangledGraph.IsTidyGraph ∧
      (savedRules tangledGraph).map (List.map fun r => (r.regex.pattern, r.template)) =
        .ok [("a+", "<$&>"), ("7", "")] ∧
      (savedRules (Settings.migrate tangledGraph (Counting.mk 1)).1.toJson).map
          (List.map Rule.unlinked) =
        (savedRules tangledGraph).map (List.map Rule.unlinked) := by
  refine ⟨tangledGraph_isTidy, by decide +kernel, ?_⟩
  exact (tangledGraph_isTidy.migrate_means_same (Counting.mk 1)).1

def contradictoryGraph : Json :=
  .obj [("patterns", .arr [.obj [("id", .str "p-1"), ("text", .str "(?a)(?u)b")]]),
    ("replacers", .arr [.obj [("id", .str "r-1"), ("text", .str "X")]]),
    ("links", .arr [.obj [("id", .str "l-1"), ("patternId", .str "p-1"),
      ("replacerId", .str "r-1")]])]

/-- There are no rules then, neither at once nor after migration. -/
theorem contradictoryGraph_without_rules :
    contradictoryGraph.IsTidyGraph ∧
      savedRules contradictoryGraph = .error .alphabetsContradict ∧
      savedRules (Settings.migrate contradictoryGraph (Counting.mk 1)).1.toJson =
        .error .alphabetsContradict := by
  refine ⟨?_, by decide +kernel, by decide +kernel⟩
  exact {
    form := rfl
    listed := ⟨_, rfl⟩
    patterns.hasId := by
      simp [contradictoryGraph, Json.field, Json.field?, Json.items, Json.HasId]
    patterns.nodup := List.nodup_singleton _
    replacers.hasId := by
      simp [contradictoryGraph, Json.field, Json.field?, Json.items, Json.HasId, List.lookup_cons]
    replacers.nodup := List.nodup_singleton _
    ends := by
      simp [contradictoryGraph, Json.field, Json.field?, Json.items, Json.Joins, Json.isObject,
        List.lookup_cons]
    pairs := List.nodup_singleton _ }

end PasteRules
