import PasteRules.Store.Basic
import PasteRules.Template.Expansion

/-! Rules: the links of a store that can be carried out, in their order. A link is passed over if it
is off, if an end is missing, or if its pattern does not compile. -/
namespace PasteRules

/-- Compiles a pattern: the regex, or the message that rejects it. A failure that no message covers
is a fault. -/
def compilePattern (pattern : String) : Except Fault (Except String Regex) :=
  match Regex.compile pattern with
  | .ok r => .ok (.ok r)
  | .error (.rejected why) => .ok (.error (why.message pattern.toList))
  | .error .alphabetsContradict => .error .alphabetsContradict
  | .error .countHasTooManyDigits => .error .countHasTooManyDigits

/-- A rule: the link it comes from, its regex, and its template with the parts read for the regex.
-/
structure Rule where
  linkId : String
  regex : Regex
  template : String
  parts : List Template.Part
  deriving DecidableEq, Repr

namespace Rule

def make (linkId : String) (regex : Regex) (template : String) : Rule :=
  ⟨linkId, regex, template, Template.forRegex regex template.toList⟩

/-- Whether the rule's regex matches somewhere in a text. -/
def applies (r : Rule) (text : String) : Bool := (r.regex.find? text.toList).isSome

def apply (r : Rule) (text : String) : String :=
  String.ofList (r.regex.replace (Template.replacement r.regex r.parts) text.toList)

end Rule

namespace Store

variable {σ : Type}

def ruleOf (s : Store σ) (l : Link) : Except Fault (Option Rule) :=
  if !l.enabled then .ok none
  else
    match Fragment.textOf? s.patterns l.patternId, Fragment.textOf? s.replacers l.replacerId with
    | some pattern, some template => do
      match ← compilePattern pattern with
      | .ok regex => return some (.make l.id regex template)
      | .error _ => return none
    | _, _ => .ok none

/-- The rules of a store. -/
def rules (s : Store σ) : Except Fault (List Rule) := do
  return (← s.links.mapM s.ruleOf).filterMap id

end Store
end PasteRules
