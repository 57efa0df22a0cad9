import PasteRules.Session.Basic

/-! Pastes: whether a session replaces what is pasted. -/
namespace PasteRules

/-- What becomes of a paste: the text to put in its place, if any, and whether the usual handling is
held back. -/
structure PasteDecision where
  replacement : Option String
  suppressDefault : Bool
  deriving DecidableEq, Repr

def PasteDecision.leave : PasteDecision := ⟨none, false⟩

def PasteDecision.replace (text : String) : PasteDecision := ⟨some text, true⟩

namespace Session.Action

variable {σ : Type}

/-- Whether content types are those of plain text alone. -/
def isPlainText : Option (List Json) → Bool
  | some [.str s] => s == "text/plain"
  | _ => false

/-- The content types that a value lists: the items of a list, the characters of a string, the names
of an object's fields. -/
def contentTypes? : Json → Except Fault (Option (List Json))
  | .null => .ok none
  | .arr items => .ok (some items)
  | .str s => .ok (some (s.toList.map fun c => .str (String.singleton c)))
  | .obj fields => .ok (some (fields.map fun f => .str f.1))
  | _ => .error .notIterable

/-- Decides about a paste. It is left alone if the session is not active, if it has been handled
already, if it is not plain text alone, and if the rules do not change it. -/
def paste (contentTypes : Json) (text : Option String) (handled : Bool) :
    Action σ PasteDecision := do
  if !(← session).active then
    printDebug "Paste left alone because transformation is deactivated."
    return .leave
  if handled then
    printDebug "Paste left alone because default handling was already prevented."
    return .leave
  let types ← ofExcept (contentTypes? contentTypes)
  let shown := Json.shown (match types with
    | some items => .arr items
    | none => .null)
  printDebug ("Clipboard content types: " ++ shown)
  match isPlainText types, text with
  | true, some t =>
    if t = "" then return .leave
    let result ← transform (some t)
    printDebug ("Replaced " ++ Text.quoted t ++ " -> " ++ Text.quoted result)
    return if result = t then .leave else .replace result
  | _, _ => return .leave

end Session.Action
end PasteRules
