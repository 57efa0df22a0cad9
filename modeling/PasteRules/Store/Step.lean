import PasteRules.Store.Edit
import PasteRules.Store.Saved
import PasteRules.Rules.Diagnosis

/-! Everything that can be done to a store or asked of it, one step at a time. -/
namespace PasteRules

/-- What a step answers. -/
inductive Answer where
  | nothing
  | fragment (f : Fragment)
  | link (l : Link)
  | links (ls : List Link)
  | count (n : Nat)
  | blob (b : Json)
  | rules (rs : List Rule)
  | diagnoses (ds : List Diagnosis)

/-- An edit of a store. -/
inductive Edit where
  | addPattern (text : String)
  | addReplacer (text : String)
  | editPattern (id text : String)
  | editReplacer (id text : String)
  | removePattern (id : String)
  | removeReplacer (id : String)
  | addLink (patternId replacerId : String) (enabled : Bool) (comment : Option String)
  | removeLink (id : String)
  | setLinkEnabled (id : String) (enabled : Bool)
  | setLinkComment (id : String) (comment : Option String)
  | moveLink (id : String) (index : Json)
  | pruneDanglingLinks

/-- A question to a store. -/
inductive Query where
  | getPattern (id : String)
  | getReplacer (id : String)
  | getLink (id : String)
  | findLink (patternId replacerId : String)
  | danglingLinks
  | blob
  | rules
  | diagnoses

namespace Store

variable {σ : Type}

/-- Carries out an edit. A missing comment is an empty one. -/
def Editing.perform [IdSupply σ] : Edit → Editing σ Answer
  | .addPattern text => return .fragment (← addPattern text)
  | .addReplacer text => return .fragment (← addReplacer text)
  | .editPattern id text => return .fragment (← editPattern id text)
  | .editReplacer id text => return .fragment (← editReplacer id text)
  | .removePattern id => return .links (← removePattern id)
  | .removeReplacer id => return .links (← removeReplacer id)
  | .addLink p r enabled comment =>
    return ((← addLink p r enabled (comment.getD "")).map Answer.link).getD .nothing
  | .removeLink id => return .link (← removeLink id)
  | .setLinkEnabled id enabled => return .link (← setLinkEnabled id enabled)
  | .setLinkComment id comment => return .link (← setLinkComment id (comment.getD ""))
  | .moveLink id index => return .link (← moveLink id index)
  | .pruneDanglingLinks => return .count (← pruneDanglingLinks)

/-- What an edit answers, and the store that it leaves. -/
def edit [IdSupply σ] (s : Store σ) (e : Edit) : Except Fault Answer × Store σ :=
  (Editing.perform e).exec s

def ask (s : Store σ) : Query → Except Fault Answer
  | .getPattern id => (s.getPattern id).map .fragment
  | .getReplacer id => (s.getReplacer id).map .fragment
  | .getLink id => (s.getLink id).map .link
  | .findLink p r => .ok (((s.findLink p r).map .link).getD .nothing)
  | .danglingLinks => .ok (.links s.danglingLinks)
  | .blob => .ok (.blob s.toJson)
  | .rules => s.rules.map .rules
  | .diagnoses => s.diagnose.map .diagnoses

end Store
end PasteRules
