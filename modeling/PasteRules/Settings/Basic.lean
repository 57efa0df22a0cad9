import PasteRules.Store.Saved

/-! Settings in their present form: the entities of a configuration and its two switches. -/
namespace PasteRules

/-- A configuration: its entities, whether it is in use, and whether it reports what it does. -/
structure Settings where
  patterns : List Fragment
  replacers : List Fragment
  links : List Link
  active : Bool
  debugMode : Bool
  deriving DecidableEq, Repr

namespace Settings

def formatVersion : Int := 300

def toJsonWith (fields : List (String × Json)) (active debugMode : Bool) : Json :=
  .obj (fields ++
    [("formatVersion", .int formatVersion), ("active", .bool active),
      ("debugMode", .bool debugMode)])

/-- The entities as a store that nobody has edited yet. -/
def toStore {σ : Type} (s : Settings) (ids : σ) : Store σ :=
  ⟨s.patterns, s.replacers, s.links, 0, ids⟩

def toJson (s : Settings) : Json := toJsonWith (s.toStore ()).fields s.active s.debugMode

end Settings
end PasteRules
