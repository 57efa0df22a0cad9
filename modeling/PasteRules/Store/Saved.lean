import PasteRules.Store.Basic
import PasteRules.Json.Shown

/-! Stores as saved configurations. Reading is lenient: entries that are no objects are passed over,
and wrong values give way to defaults. -/
namespace PasteRules

def Fragment.toJson (f : Fragment) : Json := .obj [("id", .str f.id), ("text", .str f.text)]

def Link.toJson (l : Link) : Json :=
  .obj [("id", .str l.id), ("patternId", .str l.patternId), ("replacerId", .str l.replacerId),
    ("enabled", .bool l.enabled), ("comment", .str l.comment)]

/-- The fragment that a record describes: its identifier as text, whatever it is. -/
def Fragment.ofJson (record : Json) : Fragment :=
  ⟨(record.field "id").shown, (record.field "text").entryText⟩

/-- The link that a record describes. It is on unless a flag says otherwise. -/
def Link.ofJson (record : Json) : Link where
  id := (record.field "id").shown
  patternId := (record.field "patternId").shown
  replacerId := (record.field "replacerId").shown
  enabled := (record.field "enabled").flagOr true
  comment := (record.field "comment").stringOr ""

/-- The records among the entries of a value. What counts as false has no entries, the entries of a
string or an object are no records, and a number has no entries at all. -/
def Json.records (value : Json) : Except Fault (List Json) :=
  if !value.isTruthy then .ok []
  else
    match value with
    | .arr items => .ok (items.filter Json.isObject)
    | .str _ | .obj _ => .ok []
    | _ => .error .notIterable

namespace Store

variable {σ : Type}

def ofJson (blob : Json) (ids : σ) : Except Fault (Store σ) := do
  if !blob.isObject then throw .notAnObject
  let patterns ← (blob.field "patterns").records
  let replacers ← (blob.field "replacers").records
  let links ← (blob.field "links").records
  return ⟨patterns.map .ofJson, replacers.map .ofJson, links.map .ofJson, 0, ids⟩

/-- The entities of a store as the fields of a configuration. -/
def fields (s : Store σ) : List (String × Json) :=
  [("patterns", .arr (s.patterns.map Fragment.toJson)),
    ("replacers", .arr (s.replacers.map Fragment.toJson)),
    ("links", .arr (s.links.map Link.toJson))]

def toJson (s : Store σ) : Json := .obj s.fields

end Store
end PasteRules
