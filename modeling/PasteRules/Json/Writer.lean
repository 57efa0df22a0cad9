import PasteRules.Json.Value
import PasteRules.Number.Shortest
import PasteRules.Text.Quoted

/-! The layout of saved settings: two columns for each level, one item a line, and characters raw
but for the quote, the backslash and the control characters. -/
namespace PasteRules.Json

def writtenChar (c : Char) : List Char :=
  if c = '"' then ['\\', '"']
  else if c = '\\' then ['\\', '\\']
  else if c = '\n' then ['\\', 'n']
  else if c = '\r' then ['\\', 'r']
  else if c = '\t' then ['\\', 't']
  else if c = '\x08' then ['\\', 'b']
  else if c = '\x0c' then ['\\', 'f']
  else if c.toNat < 0x20 then '\\' :: 'u' :: Text.hexPadded 4 c.toNat
  else [c]

def writtenString (s : String) : List Char := '"' :: s.toList.flatMap writtenChar ++ ['"']

/-- A fractional number. The special values are written by name. -/
def writtenReal : Number.Binary64 → List Char
  | .nan => "NaN".toList
  | .infinite negative => (if negative then "-Infinity" else "Infinity").toList
  | x => x.text.toList

def lineBreak (level : Nat) : List Char := '\n' :: List.replicate (2 * level) ' '

mutual
/-- A value whose closing bracket stands at a level. -/
def written (level : Nat) : Json → List Char
  | .null => "null".toList
  | .bool b => (if b then "true" else "false").toList
  | .int n => (toString n).toList
  | .real x => writtenReal x
  | .str s => writtenString s
  | .arr [] => ['[', ']']
  | .arr (v :: rest) =>
    '[' :: lineBreak (level + 1) ++ written (level + 1) v ++ writtenItems (level + 1) rest ++
      lineBreak level ++ [']']
  | .obj [] => ['\x7b', '\x7d']
  | .obj ((name, v) :: rest) =>
    '\x7b' :: lineBreak (level + 1) ++ writtenString name ++ ':' :: ' ' :: written (level + 1) v ++
      writtenFields (level + 1) rest ++ lineBreak level ++ ['\x7d']

/-- The items after the first, each behind a comma on a line of its own. -/
def writtenItems (level : Nat) : List Json → List Char
  | [] => []
  | v :: rest => ',' :: lineBreak level ++ written level v ++ writtenItems level rest

/-- The fields after the first, each behind a comma on a line of its own. -/
def writtenFields (level : Nat) : List (String × Json) → List Char
  | [] => []
  | (name, v) :: rest =>
    ',' :: lineBreak level ++ writtenString name ++ ':' :: ' ' :: written level v ++
      writtenFields level rest
end

def saved (value : Json) : String := String.ofList (written 0 value ++ ['\n'])

end PasteRules.Json
