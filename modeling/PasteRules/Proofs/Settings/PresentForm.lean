import PasteRules.Proofs.Json.Same
import PasteRules.Proofs.Settings.Consistent

/-! What it means for a saved value to hold consistent settings in their present form, said of the
value alone, and the settings that such a value holds. -/
namespace PasteRules

namespace Json

def HasId (v : Json) : Prop := ∃ id, v.field "id" = .str id ∧ id ≠ ""

/-- The record of a pattern or a replacer, and nothing else. -/
structure IsFragment (v : Json) : Prop where
  fields : v.HasFields ["id", "text"]
  id : v.HasId
  text : ∃ text, v.field "text" = .str text

structure IsLink (v : Json) : Prop where
  fields : v.HasFields ["id", "patternId", "replacerId", "enabled", "comment"]
  id : v.HasId
  enabled : ∃ b, v.field "enabled" = .bool b
  comment : ∃ text, v.field "comment" = .str text

/-- The field is a list whose entries are as required and have identifiers of their own. -/
def Lists (IsEntry : Json → Prop) (name : String) (blob : Json) : Prop :=
  ∃ items, blob.field name = .arr items ∧ (∀ v ∈ items, IsEntry v) ∧
    (items.map (·.field "id")).Nodup

def idsOf (blob : Json) (name : String) : List Json := (blob.field name).items.map (·.field "id")

structure Identified (blob : Json) (name : String) : Prop where
  hasId : ∀ v ∈ (blob.field name).items, v.HasId
  nodup : (blob.idsOf name).Nodup

/-- Consistent settings in the present form. -/
structure IsConsistent (blob : Json) : Prop where
  fields : blob.HasFields
    ["patterns", "replacers", "links", "formatVersion", "active", "debugMode"]
  formatVersion : blob.field "formatVersion" = .int 300
  active : ∃ b, blob.field "active" = .bool b
  debugMode : ∃ b, blob.field "debugMode" = .bool b
  patterns : blob.Lists IsFragment "patterns"
  replacers : blob.Lists IsFragment "replacers"
  links : blob.Lists IsLink "links"
  pairs :
    ((blob.field "links").items.map fun l => (l.field "patternId", l.field "replacerId")).Nodup
  ends : ∀ l ∈ (blob.field "links").items, ∃ p r : String,
    l.field "patternId" = .str p ∧ l.field "replacerId" = .str r ∧
      .str p ∈ blob.idsOf "patterns" ∧ .str r ∈ blob.idsOf "replacers"

end Json

theorem Fragment.hasFields_toJson (f : Fragment) : f.toJson.HasFields ["id", "text"] :=
  ⟨_, rfl, .refl _⟩

theorem Link.hasFields_toJson (l : Link) :
    l.toJson.HasFields ["id", "patternId", "replacerId", "enabled", "comment"] := ⟨_, rfl, .refl _⟩

theorem Settings.hasFields_toJson (settings : Settings) :
    settings.toJson.HasFields
      ["patterns", "replacers", "links", "formatVersion", "active", "debugMode"] :=
  ⟨_, rfl, .refl _⟩

theorem Fragment.isFragment_toJson {f : Fragment} (h : f.id ≠ "") : f.toJson.IsFragment where
  fields := f.hasFields_toJson
  id := ⟨f.id, rfl, h⟩
  text := ⟨f.text, rfl⟩

theorem Link.isLink_toJson {l : Link} (h : l.id ≠ "") : l.toJson.IsLink where
  fields := l.hasFields_toJson
  id := ⟨l.id, rfl, h⟩
  enabled := ⟨l.enabled, rfl⟩
  comment := ⟨l.comment, rfl⟩

theorem Fragment.map_ofJson_toJson (fragments : List Fragment) :
    (fragments.map Fragment.toJson).map Fragment.ofJson = fragments := by
  rw [List.map_map]
  exact List.map_id _

theorem Link.map_ofJson_toJson (links : List Link) :
    (links.map Link.toJson).map Link.ofJson = links := by
  rw [List.map_map]
  exact List.map_id _

namespace Settings

theorem lists_map {α : Type} {IsEntry : Json → Prop} {name : String} {blob : Json} {xs : List α}
    {save : α → Json} {key : α → String} (hfield : blob.field name = .arr (xs.map save))
    (hentry : ∀ x ∈ xs, IsEntry (save x)) (hkey : ∀ x, (save x).field "id" = .str (key x))
    (hn : (xs.map key).Nodup) : blob.Lists IsEntry name := by
  refine ⟨xs.map save, hfield, ?_, ?_⟩
  · intro v hv
    obtain ⟨x, hx, rfl⟩ := List.mem_map.mp hv
    exact hentry x hx
  · have hids : (xs.map save).map (·.field "id") = (xs.map key).map Json.str := by
      simp only [List.map_map]
      exact List.map_congr_left fun x _ => hkey x
    rw [hids]
    exact hn.map fun _ _ => Json.str.inj

theorem idsOf_toJson (settings : Settings) :
    settings.toJson.idsOf "patterns" = (settings.patterns.map Fragment.id).map .str ∧
      settings.toJson.idsOf "replacers" = (settings.replacers.map Fragment.id).map .str := by
  refine ⟨?_, ?_⟩
  · change (settings.patterns.map Fragment.toJson).map _ = _
    simp only [List.map_map]
    rfl
  · change (settings.replacers.map Fragment.toJson).map _ = _
    simp only [List.map_map]
    rfl

theorem Consistent.toJson {settings : Settings} (h : settings.Consistent) :
    settings.toJson.IsConsistent where
  fields := settings.hasFields_toJson
  formatVersion := rfl
  active := ⟨settings.active, rfl⟩
  debugMode := ⟨settings.debugMode, rfl⟩
  patterns := lists_map rfl (fun p hp => Fragment.isFragment_toJson (h.patterns p hp))
    (fun _ => rfl) h.graph.patternIds
  replacers := lists_map rfl (fun r hr => Fragment.isFragment_toJson (h.replacers r hr))
    (fun _ => rfl) h.graph.replacerIds
  links := lists_map rfl (fun l hl => Link.isLink_toJson (h.links l hl)) (fun _ => rfl)
    h.graph.linkIds
  pairs := by
    change ((settings.links.map Link.toJson).map _).Nodup
    have hpairs : (settings.links.map Link.toJson).map
        (fun l => (l.field "patternId", l.field "replacerId")) =
          (settings.links.map Link.pair).map fun x => (Json.str x.1, Json.str x.2) := by
      simp only [List.map_map]
      rfl
    rw [hpairs]
    refine h.graph.pairs.map fun x y he => ?_
    simpa [Prod.ext_iff] using he
  ends := by
    intro v hv
    obtain ⟨l, hl, rfl⟩ := List.mem_map.mp (show v ∈ settings.links.map Link.toJson from hv)
    obtain ⟨hp, hr⟩ := h.graph.ends l hl
    obtain ⟨hps, hrs⟩ := idsOf_toJson settings
    exact ⟨l.patternId, l.replacerId, rfl, rfl, hps ▸ List.mem_map_of_mem hp,
      hrs ▸ List.mem_map_of_mem hr⟩

end Settings
end PasteRules
