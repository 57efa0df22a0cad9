import PasteRules.Json.Value

/-! The three forms in which settings were saved over time, told apart by what is there. -/
namespace PasteRules

/-- Whether an entry is an object with a text. -/
def Json.isRecord (entry : Json) : Bool := (entry.field? "text").isSome

/-- The forms of saved settings: two lists of texts, paired by place; the same with flags and
comments by place; and records joined by links. -/
inductive Generation where
  | flatArrays
  | flaggedArrays
  | linkGraph
  deriving DecidableEq, Repr

namespace Generation

def name : Generation → String
  | .flatArrays => "FLAT_ARRAYS"
  | .flaggedArrays => "FLAGGED_ARRAYS"
  | .linkGraph => "LINK_GRAPH"

/-- The form of saved settings. A first pattern that is a record, and a list of links, make a graph;
the version number is not asked. -/
def ofJson (blob : Json) : Generation :=
  let isGraph := match (blob.field "patterns").items, blob.field "links" with
    | first :: _, .arr _ => first.isRecord
    | _, _ => false
  if isGraph then .linkGraph
  else if (blob.field? "enabled").isSome || (blob.field? "comments").isSome then .flaggedArrays
  else .flatArrays

end Generation
end PasteRules
