import PasteRules.Session.Step
import PasteRules.Proofs.Store.Revision

/-! Runs of a session: steps in any order, each from where the one before has left. -/
namespace PasteRules.Session

variable {σ : Type}

/-- The sessions a run starts from: those of saved settings, and those set up on a store that a
configuration describes, whether it has been migrated or not. -/
inductive Opened [IdSupply σ] : Session σ → Prop
  | load (saved : Json) (ids : σ) : Opened (Session.load saved ids)
  | start {blob : Json} {ids : σ} {store : Store σ} (active debug : Bool)
      (h : Store.ofJson blob ids = .ok store) : Opened (Session.start store active debug)

def Step.hasIntegerIndex : Step → Bool
  | .edit e => e.hasIntegerIndex
  | _ => true

def forget (s : Session σ) : Session σ := { s with compiled := none }

variable [IdSupply σ]

def next (s : Session σ) (step : Step) : Except Fault Reply × Session σ :=
  let (reply, _, s') := s.run (Action.step step)
  (reply, s')

def after (s : Session σ) (steps : List Step) : Session σ :=
  steps.foldl (fun s step => (s.next step).2) s

def replies (s : Session σ) : List Step → List (Except Fault Reply)
  | [] => []
  | step :: rest => (s.next step).1 :: (s.next step).2.replies rest

/-- The answers of a run in which no step finds rules that another one has compiled. -/
def repliesAfresh (s : Session σ) : List Step → List (Except Fault Reply)
  | [] => []
  | step :: rest => (s.forget.next step).1 :: (s.forget.next step).2.repliesAfresh rest

end PasteRules.Session
