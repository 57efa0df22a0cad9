import PasteRules.Json.Value
import PasteRules.Number.Shortest
import PasteRules.Text.Quoted

/-! Values as plain text: how an identifier, an entry or a debug line shows a value of any kind. -/
namespace PasteRules.Json

mutual
/-- A value inside a list or an object, where strings stand in quotes. -/
def shownInside : Json → String
  | .null => "None"
  | .bool b => if b then "True" else "False"
  | .int n => toString n
  | .real x => x.text
  | .str s => Text.quoted s
  | .arr items => "[" ++ shownItems items ++ "]"
  | .obj fields => "\x7b" ++ shownFields fields ++ "\x7d"

def shownItems : List Json → String
  | [] => ""
  | [v] => shownInside v
  | v :: rest => shownInside v ++ ", " ++ shownItems rest

/-- Fields apart by a comma and a space, each name in quotes before its value. -/
def shownFields : List (String × Json) → String
  | [] => ""
  | [(name, v)] => Text.quoted name ++ ": " ++ shownInside v
  | (name, v) :: rest => Text.quoted name ++ ": " ++ shownInside v ++ ", " ++ shownFields rest
end

/-- A value by itself: a string as it is, any other value as inside a list. -/
def shown : Json → String
  | .str s => s
  | v => shownInside v

/-- The text of an entry: a string itself, nothing for null, the text of an object's field `text`,
and any other value as shown. -/
def entryText : Json → String
  | .obj fields => fieldText fields
  | v => v.orEmptyString.shown
where
  /-- The text of the field `text`, nothing if it is missing. -/
  fieldText : List (String × Json) → String
    | [] => ""
    | (name, v) :: rest => if name = "text" then entryText v else fieldText rest

end PasteRules.Json
