import PasteRules.Rules.Basic

/-! Diagnoses: for each link, whether it has a rule, and if not, why not. -/
namespace PasteRules

/-- The condition of a link. -/
inductive LinkStatus where
  | ok
  | disabled
  | dangling
  | invalidPattern (message : String)
  deriving DecidableEq, Repr

namespace LinkStatus

def name : LinkStatus → String
  | .ok => "OK"
  | .disabled => "DISABLED"
  | .dangling => "DANGLING"
  | .invalidPattern _ => "INVALID_PATTERN"

/-- The message of a condition, where the pattern is to blame. -/
def message? : LinkStatus → Option String
  | .invalidPattern message => some message
  | _ => none

end LinkStatus

/-- A link and its condition. -/
structure Diagnosis where
  link : Link
  status : LinkStatus
  deriving DecidableEq, Repr

namespace Store

variable {σ : Type}

/-- The condition of a link: the first of being off, missing an end, and having a bad pattern. -/
def statusOf (s : Store σ) (l : Link) : Except Fault LinkStatus :=
  if !l.enabled then .ok .disabled
  else if !s.resolves l then .ok .dangling
  else do
    match ← compilePattern ((Fragment.textOf? s.patterns l.patternId).getD "") with
    | .ok _ => return .ok
    | .error message => return .invalidPattern message

def diagnose (s : Store σ) : Except Fault (List Diagnosis) :=
  s.links.mapM fun l => return ⟨l, ← s.statusOf l⟩

/-- The line that reports a diagnosis: the condition, the texts of both ends with a question mark
for a missing one, the message, and the comment. -/
def reportLine (s : Store σ) (d : Diagnosis) : String :=
  let pattern := (Fragment.textOf? s.patterns d.link.patternId).getD "?"
  let replacer := (Fragment.textOf? s.replacers d.link.replacerId).getD "?"
  let message := match d.status.message? with
    | some m => " (" ++ m ++ ")"
    | none => ""
  let comment := if d.link.comment = "" then "" else "  # " ++ d.link.comment
  d.status.name ++ ": #" ++ d.link.id ++ " /" ++ pattern ++ "/ --> \"" ++ replacer ++ "\"" ++
    message ++ comment

end Store
end PasteRules
