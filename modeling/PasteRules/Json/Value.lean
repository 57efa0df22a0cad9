import PasteRules.Number.Binary64

/-! JSON values. Integers are unbounded and apart from fractional numbers; an object keeps its
fields in order, each name once. -/
namespace PasteRules

/-- A JSON value. -/
inductive Json where
  | null
  | bool (b : Bool)
  | int (n : Int)
  | real (x : Number.Binary64)
  | str (s : String)
  | arr (items : List Json)
  | obj (fields : List (String × Json))
  deriving Repr, Inhabited

namespace Json

/-- The kinds of values; two values of one kind may take each other's place. -/
inductive Kind where
  | null | bool | int | real | str | arr | obj
  deriving DecidableEq, Repr

def kind : Json → Kind
  | .null => .null
  | .bool _ => .bool
  | .int _ => .int
  | .real _ => .real
  | .str _ => .str
  | .arr _ => .arr
  | .obj _ => .obj

/-- The value if it has the kind of the default, else the default. A number is no flag. -/
def orDefault (value default : Json) : Json :=
  if value.kind = default.kind then value else default

/-- The value, with an empty string for null. -/
def orEmptyString : Json → Json
  | .null => .str ""
  | v => v

/-- Truth of a value: null, false, zeros and what is empty count as false. -/
def isTruthy : Json → Bool
  | .null => false
  | .bool b => b
  | .int n => n != 0
  | .real x => x.isTruthy
  | .str s => s != ""
  | .arr items => !items.isEmpty
  | .obj fields => !fields.isEmpty

/-- The field of an object, if it is one and has it. -/
def field? (value : Json) (name : String) : Option Json :=
  match value with
  | .obj fields => fields.lookup name
  | _ => none

/-- The field of an object, null if it is missing. -/
def field (value : Json) (name : String) : Json := (value.field? name).getD .null

/-- The items of an array; any other value has none. -/
def items : Json → List Json
  | .arr items => items
  | _ => []

def isObject : Json → Bool
  | .obj _ => true
  | _ => false

def flag? : Json → Option Bool
  | .bool b => some b
  | _ => none

def string? : Json → Option String
  | .str s => some s
  | _ => none

/-- The flag that a value is, else the default. -/
def flagOr (value : Json) (default : Bool) : Bool :=
  (value.orDefault (.bool default)).flag?.getD default

theorem flagOr_eq (value : Json) (default : Bool) :
    value.flagOr default = value.flag?.getD default := by
  cases value <;> rfl

/-- The string that a value is, else the default. -/
def stringOr (value : Json) (default : String) : String :=
  (value.orDefault (.str default)).string?.getD default

theorem stringOr_eq (value : Json) (default : String) :
    value.stringOr default = value.string?.getD default := by
  cases value <;> rfl

/-- Sets a field: in its place if the name is there, else at the end. -/
def setField (name : String) (value : Json) : List (String × Json) → List (String × Json)
  | [] => [(name, value)]
  | (n, v) :: rest => if n = name then (n, value) :: rest else (n, v) :: setField name value rest

/-- The fields of the first list overlaid with those of the second. -/
def overlay (below above : List (String × Json)) : List (String × Json) :=
  above.foldl (fun fields f => setField f.1 f.2 fields) below

end Json
end PasteRules
