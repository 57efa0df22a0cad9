import PasteRules.Store.Basic
import PasteRules.Json.Value

/-! Edits of a store. They change it bit by bit, and what an edit has changed when it fails stays
changed. Every edit that can change the rules counts one revision. -/
namespace PasteRules.Store

variable {σ α : Type}

/-- The place in a list of `n` elements that an index means: out of range is the nearer end. -/
def clampIndex (index : Int) (n : Nat) : Nat := min index.toNat n

/-- The place that an index of any kind means. A fractional number means a place only where it lies
out of range, and nothing else but an integer or a flag means any. -/
def placeFor? (index : Json) (n : Nat) : Option Nat :=
  match index with
  | .int i => some (clampIndex i n)
  | .bool b => some (clampIndex (if b then 1 else 0) n)
  | .real x =>
    if x.compareInt? n = some .gt then some n
    else if x.compareInt? 0 = some .gt then none
    else some 0
  | _ => none

/-- A store that is being edited: the edit may fail, but what it has changed by then stays. -/
abbrev Editing (σ : Type) := ExceptT Fault (StateM (Store σ))

namespace Editing

/-- Carries out an edit; the result comes with the store after it. -/
def exec (act : Editing σ α) (s : Store σ) : Except Fault α × Store σ := (ExceptT.run act).run s

/-- Looks something up in the store as it is now. -/
def lookup (find : Store σ → Except Fault α) : Editing σ α := do
  match find (← get) with
  | .ok x => return x
  | .error e => throw e

section

-- Where an edit cannot fail, it is carried out the same way whether failing is possible or not.
variable {m : Type → Type} [Monad m] [MonadState (Store σ) m]

/-- Draws an identifier from the store's supply. -/
def draw [IdSupply σ] (stem : String) (taken : List String) : m String :=
  modifyGet fun s =>
    let (id, ids) := IdSupply.draw stem taken s.ids
    (id, { s with ids })

def setPatterns (patterns : List Fragment) : m Unit := modify fun s => { s with patterns }

def setReplacers (replacers : List Fragment) : m Unit := modify fun s => { s with replacers }

def setLinks (links : List Link) : m Unit := modify fun s => { s with links }

/-- Counts the edit. -/
def count : m Unit := modify bump

def addPattern [IdSupply σ] (text : String) : m Fragment := do
  let id ← draw Identifier.patternStem ((← get).patterns.map Fragment.id)
  let added : Fragment := ⟨id, text⟩
  setPatterns ((← get).patterns ++ [added])
  count
  return added

def addReplacer [IdSupply σ] (text : String) : m Fragment := do
  let id ← draw Identifier.replacerStem ((← get).replacers.map Fragment.id)
  let added : Fragment := ⟨id, text⟩
  setReplacers ((← get).replacers ++ [added])
  count
  return added

/-- Removes the links with a missing end, and any that share an identifier with one. The result
counts the identifiers. -/
def pruneDanglingLinks : m Nat := do
  let ids := ((← get).danglingLinks.map (·.id)).eraseDups
  if ids.isEmpty then return 0
  setLinks ((← get).links.filter fun l => !ids.contains l.id)
  count
  return ids.length

end

def editPattern (id text : String) : Editing σ Fragment := do
  let p ← lookup (·.getPattern id)
  setPatterns (updateFirst (·.id == id) (fun p => { p with text }) (← get).patterns)
  count
  return { p with text }

def editReplacer (id text : String) : Editing σ Fragment := do
  let r ← lookup (·.getReplacer id)
  setReplacers (updateFirst (·.id == id) (fun r => { r with text }) (← get).replacers)
  count
  return { r with text }

/-- Removes a pattern together with the links that use it, which are returned. -/
def removePattern (id : String) : Editing σ (List Link) := do
  let _ ← lookup (·.getPattern id)
  setPatterns ((← get).patterns.eraseP (·.id == id))
  let (gone, links) := (← get).links.partition (·.patternId == id)
  setLinks links
  count
  return gone

/-- Removes a replacer together with the links that use it, which are returned. -/
def removeReplacer (id : String) : Editing σ (List Link) := do
  let _ ← lookup (·.getReplacer id)
  setReplacers ((← get).replacers.eraseP (·.id == id))
  let (gone, links) := (← get).links.partition (·.replacerId == id)
  setLinks links
  count
  return gone

/-- Joins a pattern to a replacer. A pair that is joined already is left as it is. -/
def addLink [IdSupply σ] (patternId replacerId : String) (enabled : Bool) (comment : String) :
    Editing σ (Option Link) := do
  let _ ← lookup (·.getPattern patternId)
  let _ ← lookup (·.getReplacer replacerId)
  if ((← get).findLink patternId replacerId).isSome then return none
  let id ← draw Identifier.linkStem ((← get).links.map Link.id)
  let link : Link := ⟨id, patternId, replacerId, enabled, comment⟩
  setLinks ((← get).links ++ [link])
  count
  return some link

def removeLink (id : String) : Editing σ Link := do
  let l ← lookup (·.getLink id)
  setLinks ((← get).links.eraseP (·.id == id))
  count
  return l

def setLinkEnabled (id : String) (enabled : Bool) : Editing σ Link := do
  let l ← lookup (·.getLink id)
  setLinks (updateFirst (·.id == id) (fun l => { l with enabled }) (← get).links)
  count
  return { l with enabled }

/-- Gives a link another comment. Comments are no part of the rules. -/
def setLinkComment (id comment : String) : Editing σ Link := do
  let l ← lookup (·.getLink id)
  setLinks (updateFirst (·.id == id) (fun l => { l with comment }) (← get).links)
  return { l with comment }

/-- Moves a link to another place among the others. The link is taken out before the index is looked
at, so an index that means no place loses it. -/
def moveLink (id : String) (index : Json) : Editing σ Link := do
  let l ← lookup (·.getLink id)
  setLinks ((← get).links.eraseP (·.id == id))
  let others := (← get).links
  match placeFor? index others.length with
  | none => throw .notAPosition
  | some i =>
    setLinks (others.insertIdx i l)
    count
    return l

end Editing

/-! ### Edits of a given store -/

/-- What a caller has of an edit that succeeds: the result, and the store after it. -/
def attempt (act : Editing σ α) (s : Store σ) : Except Fault (α × Store σ) :=
  match act.exec s with
  | (.ok a, s) => .ok (a, s)
  | (.error e, _) => .error e

def addPattern [IdSupply σ] (text : String) (s : Store σ) : Fragment × Store σ :=
  (Editing.addPattern text : StateM (Store σ) Fragment).run s

def addReplacer [IdSupply σ] (text : String) (s : Store σ) : Fragment × Store σ :=
  (Editing.addReplacer text : StateM (Store σ) Fragment).run s

def editPattern (id text : String) : Store σ → Except Fault (Fragment × Store σ) :=
  attempt (Editing.editPattern id text)

def editReplacer (id text : String) : Store σ → Except Fault (Fragment × Store σ) :=
  attempt (Editing.editReplacer id text)

def removePattern (id : String) : Store σ → Except Fault (List Link × Store σ) :=
  attempt (Editing.removePattern id)

def removeReplacer (id : String) : Store σ → Except Fault (List Link × Store σ) :=
  attempt (Editing.removeReplacer id)

def addLink [IdSupply σ] (patternId replacerId : String) (enabled : Bool) (comment : String) :
    Store σ → Except Fault (Option Link × Store σ) :=
  attempt (Editing.addLink patternId replacerId enabled comment)

def removeLink (id : String) : Store σ → Except Fault (Link × Store σ) :=
  attempt (Editing.removeLink id)

def setLinkEnabled (id : String) (enabled : Bool) : Store σ → Except Fault (Link × Store σ) :=
  attempt (Editing.setLinkEnabled id enabled)

def setLinkComment (id comment : String) : Store σ → Except Fault (Link × Store σ) :=
  attempt (Editing.setLinkComment id comment)

def moveLink (id : String) (index : Json) (s : Store σ) : Except Fault Link × Store σ :=
  (Editing.moveLink id index).exec s

def pruneDanglingLinks (s : Store σ) : Nat × Store σ :=
  (Editing.pruneDanglingLinks : StateM (Store σ) Nat).run s

end PasteRules.Store
