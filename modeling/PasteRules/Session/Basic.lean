import PasteRules.Settings.Load
import PasteRules.Rules.Transform
import PasteRules.Rules.Diagnosis

/-! Sessions: a store in use, with its two switches and the rules compiled last. The rules are
compiled anew when they are asked for after an edit that can have changed them. -/
namespace PasteRules

/-- A session. `compiled` holds the rules compiled last with the store's revision at that time. -/
structure Session (σ : Type) where
  store : Store σ
  active : Bool
  debug : Bool
  compiled : Option (Nat × List Rule)
  deriving DecidableEq, Repr

namespace Session

variable {σ : Type}

/-- A session that has compiled nothing yet. -/
def start (store : Store σ) (active debug : Bool) : Session σ := ⟨store, active, debug, none⟩

def load [IdSupply σ] (saved : Json) (ids : σ) : Session σ :=
  let (settings, ids) := Settings.load saved ids
  start (settings.toStore ids) settings.active settings.debugMode

/-- A session at work, and what it has printed. -/
structure Work (σ : Type) where
  session : Session σ
  printed : String
  deriving DecidableEq, Repr

/-- Something that a session does: it may fail, but what it has printed by then stays. -/
abbrev Action (σ : Type) := ExceptT Fault (StateM (Work σ))

/-- Runs an action; the result comes with what was printed and the session after it. -/
def run {α : Type} (s : Session σ) (act : Action σ α) : Except Fault α × String × Session σ :=
  let (result, w) := (ExceptT.run act).run ⟨s, ""⟩
  (result, w.printed, w.session)

namespace Action

def session : Action σ (Session σ) := return (← get).session

def setSession (s : Session σ) : Action σ Unit := modify fun w => { w with session := s }

def print (line : String) : Action σ Unit :=
  modify fun w => { w with printed := w.printed ++ line ++ "\n" }

/-- Prints a line if the session reports what it does. -/
def printDebug (line : String) : Action σ Unit := do
  if (← session).debug then print line

/-- Carries over the outcome of a computation that may fail. -/
def ofExcept {α : Type} : Except Fault α → Action σ α
  | .ok a => return a
  | .error e => throw e

def rules : Action σ (List Rule) := do
  let s ← session
  let compile : Action σ (List Rule) := do
    let rules ← ofExcept s.store.rules
    setSession { s with compiled := some (s.store.revision, rules) }
    let shown := Json.shown (.arr (rules.map fun r => .str ("#" ++ r.linkId)))
    printDebug ("Rule queue: " ++ shown ++ "\n")
    return rules
  match s.compiled with
  | some (revision, rules) => if revision = s.store.revision then return rules else compile
  | none => compile

/-- A line of one character, with a word behind it. -/
def divider (c : Char) (word : String) : String := String.ofList (List.replicate 48 c) ++ word

/-- Prints a text before and after, and the rule that did it. -/
def printTransformation (rules : List Rule) (before after : String) : Action σ Unit := do
  let author := match Rule.winner? rules before with
    | some r => " by #" ++ r.linkId
    | none => " (no rule matched)"
  print (divider '<' " BEFORE")
  print before
  print (divider '=' author)
  print after
  print (divider '>' " AFTER")
  print ""

/-- Transforms a text by the session's rules, whether the session is active or not. -/
def transform (text : Option String) : Action σ String := do
  let rules ← rules
  let result := Rule.transform rules text
  match text with
  | none => return result
  | some t =>
    if (← session).debug && t != "" then printTransformation rules t result
    return result

def toggleActive : Action σ Bool := do
  let s ← session
  setSession { s with active := !s.active }
  printDebug ("Transformation " ++ if s.active then "deactivated" else "activated")
  return !s.active

/-- Prints the diagnosis of each link; the answer is whether every link that is on has a rule. -/
def check : Action σ Bool := do
  let store := (← session).store
  let diagnoses ← ofExcept store.diagnose
  diagnoses.forM fun d => print (store.reportLine d)
  return diagnoses.all fun d => !d.link.enabled || d.status == .ok

end Action
end Session
end PasteRules
