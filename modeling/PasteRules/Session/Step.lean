import PasteRules.Session.Paste
import PasteRules.Store.Step

/-! Everything that can be done to a session or asked of it, one step at a time. -/
namespace PasteRules.Session

variable {σ : Type}

/-- What a step of a session answers. -/
inductive Reply where
  | answer (a : Answer)
  | text (s : String)
  | flag (b : Bool)
  | decision (d : PasteDecision)

/-- A step of a session. -/
inductive Step where
  | edit (e : Edit)
  | ask (q : Query)
  | transform (text : Option String)
  | paste (contentTypes : Json) (text : Option String) (handled : Bool)
  | toggleActive
  | setActive (value : Bool)
  | setDebug (value : Bool)
  | rules
  | save
  | check

namespace Action

def edit [IdSupply σ] (e : Edit) : Action σ Answer := do
  let s ← session
  let (result, store) := s.store.edit e
  setSession { s with store }
  ofExcept result

/-- The session's settings as they are saved. Links with a missing end are removed before. -/
def save : Action σ Json := do
  let s ← session
  let (_, store) := s.store.pruneDanglingLinks
  setSession { s with store }
  return Settings.toJsonWith store.fields s.active s.debug

def step [IdSupply σ] : Step → Action σ Reply
  | .edit e => return .answer (← edit e)
  | .ask q => do return .answer (← ofExcept ((← session).store.ask q))
  | .transform text => return .text (← transform text)
  | .paste types text handled => return .decision (← paste types text handled)
  | .toggleActive => return .flag (← toggleActive)
  | .setActive value => do
    setSession { ← session with active := value }
    return .flag value
  | .setDebug value => do
    setSession { ← session with debug := value }
    return .flag value
  | .rules => return .answer (.rules (← rules))
  | .save => return .answer (.blob (← save))
  | .check => return .flag (← check)

end Action
end PasteRules.Session
