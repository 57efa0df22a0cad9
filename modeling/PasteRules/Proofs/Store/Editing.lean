import PasteRules.Store.Step

/-! Edits as functions of the store that they find. All edits but a move look up what they name
before they change anything, so what they do not find costs nothing; a move can still fail with its
link taken out. -/
namespace PasteRules.Store

variable {σ α β : Type}

/-- What comes of a store in which something has been looked up. If it is not there, the store is as
it was. -/
def onFound (s : Store σ) (found : Except Fault α) (next : α → β × Store σ) :
    Except Fault β × Store σ :=
  match found with
  | .ok x => (.ok (next x).1, (next x).2)
  | .error e => (.error e, s)

namespace Editing

theorem exec_bind (act : Editing σ α) (next : α → Editing σ β) (s : Store σ) :
    (act >>= next).exec s =
      match act.exec s with
      | (.ok a, s') => (next a).exec s'
      | (.error e, s') => (.error e, s') := by
  simp only [exec, ExceptT.run_bind, StateT.run_bind]
  cases act.run.run s with
  | mk result s' => cases result <;> rfl

@[simp]
theorem exec_lookup (find : Store σ → Except Fault α) (s : Store σ) :
    (lookup find).exec s = (find s, s) := by
  have hexec : (lookup find).exec s = (match find s with
      | .ok x => (pure x : Editing σ α)
      | .error e => throw e).exec s := rfl
  rw [hexec]
  cases find s <;> rfl

theorem exec_get_bind (next : Store σ → Editing σ β) (s : Store σ) :
    (get >>= next).exec s = (next s).exec s := rfl

/-- An edit goes on from the store in which it has found something, and else fails. -/
theorem exec_lookup_bind (find : Store σ → Except Fault α) (next : α → Editing σ β)
    (s : Store σ) :
    (lookup find >>= next).exec s =
      match find s with
      | .ok x => (next x).exec s
      | .error e => (.error e, s) := by
  rw [exec_bind, exec_lookup]
  cases find s <;> rfl

/-- An edit that cannot fail once it has found what it names. -/
theorem exec_lookup_bind_of_ok {find : Store σ → Except Fault α} {act : α → Editing σ β}
    {s : Store σ} {next : α → β × Store σ}
    (h : ∀ x, (act x).exec s = (.ok (next x).1, (next x).2)) :
    (lookup find >>= act).exec s = s.onFound (find s) next := by
  rw [exec_lookup_bind]
  cases find s with
  | ok x => exact h x
  | error e => rfl

theorem exec_editPattern (id text : String) (s : Store σ) :
    (editPattern id text).exec s = s.onFound (s.getPattern id) fun p =>
      ({ p with text }, bump { s with
        patterns := updateFirst (·.id == id) (fun p => { p with text }) s.patterns }) :=
  exec_lookup_bind_of_ok fun _ => rfl

theorem exec_editReplacer (id text : String) (s : Store σ) :
    (editReplacer id text).exec s = s.onFound (s.getReplacer id) fun r =>
      ({ r with text }, bump { s with
        replacers := updateFirst (·.id == id) (fun r => { r with text }) s.replacers }) :=
  exec_lookup_bind_of_ok fun _ => rfl

theorem exec_removePattern (id : String) (s : Store σ) :
    (removePattern id).exec s = s.onFound (s.getPattern id) fun _ =>
      (s.links.filter (·.patternId == id), bump { s with
        patterns := s.patterns.eraseP (·.id == id)
        links := s.links.filter fun l => !(l.patternId == id) }) := by
  refine exec_lookup_bind_of_ok fun _ => ?_
  have hpartition := List.partition_eq_filter_filter (p := fun l : Link => l.patternId == id)
    (l := s.links)
  exact congrArg (fun parts : List Link × List Link => (Except.ok parts.1, bump { s with
    patterns := s.patterns.eraseP (·.id == id), links := parts.2 })) hpartition

theorem exec_removeReplacer (id : String) (s : Store σ) :
    (removeReplacer id).exec s = s.onFound (s.getReplacer id) fun _ =>
      (s.links.filter (·.replacerId == id), bump { s with
        replacers := s.replacers.eraseP (·.id == id)
        links := s.links.filter fun l => !(l.replacerId == id) }) := by
  refine exec_lookup_bind_of_ok fun _ => ?_
  have hpartition := List.partition_eq_filter_filter (p := fun l : Link => l.replacerId == id)
    (l := s.links)
  exact congrArg (fun parts : List Link × List Link => (Except.ok parts.1, bump { s with
    replacers := s.replacers.eraseP (·.id == id), links := parts.2 })) hpartition

theorem exec_removeLink (id : String) (s : Store σ) :
    (removeLink id).exec s = s.onFound (s.getLink id) fun l =>
      (l, bump { s with links := s.links.eraseP (·.id == id) }) :=
  exec_lookup_bind_of_ok fun _ => rfl

theorem exec_setLinkEnabled (id : String) (enabled : Bool) (s : Store σ) :
    (setLinkEnabled id enabled).exec s = s.onFound (s.getLink id) fun l =>
      ({ l with enabled }, bump { s with
        links := updateFirst (·.id == id) (fun l => { l with enabled }) s.links }) :=
  exec_lookup_bind_of_ok fun _ => rfl

theorem exec_setLinkComment (id comment : String) (s : Store σ) :
    (setLinkComment id comment).exec s = s.onFound (s.getLink id) fun l =>
      ({ l with comment }, { s with
        links := updateFirst (·.id == id) (fun l => { l with comment }) s.links }) :=
  exec_lookup_bind_of_ok fun _ => rfl

/-- Both ends are looked up, then the pair, and all this before an identifier is drawn. -/
theorem exec_addLink [IdSupply σ] (p r : String) (enabled : Bool) (comment : String)
    (s : Store σ) :
    (addLink p r enabled comment).exec s =
      match s.getPattern p, s.getReplacer r, s.findLink p r with
      | .error e, _, _ => (.error e, s)
      | .ok _, .error e, _ => (.error e, s)
      | .ok _, .ok _, some _ => (.ok none, s)
      | .ok _, .ok _, none =>
        let (id, ids) := IdSupply.draw Identifier.linkStem (s.links.map Link.id) s.ids
        let link : Link := ⟨id, p, r, enabled, comment⟩
        (.ok (some link), bump { s with links := s.links ++ [link], ids }) := by
  rw [addLink, exec_lookup_bind]
  cases s.getPattern p with
  | error e => rfl
  | ok fp =>
    dsimp only
    rw [exec_lookup_bind]
    cases s.getReplacer r with
    | error e => rfl
    | ok fr =>
      dsimp only
      rw [exec_get_bind]
      cases s.findLink p r <;> rfl

end Editing

open Editing

section

variable {act : Editing σ α} {s : Store σ} {found : Except Fault β} {next : β → α × Store σ}

/-- The caller of an edit has what was found made into the result and the store after it. -/
theorem attempt_of_onFound (h : act.exec s = s.onFound found next) :
    attempt act s = found.map next := by
  rw [attempt, h]
  cases found <;> rfl

variable [IdSupply σ] {e : Edit} {answer : α → Answer}

/-- A store answers an edit with what comes of carrying it out. -/
theorem edit_eq (h : perform e = act >>= fun a => pure (answer a)) (s : Store σ) :
    s.edit e = ((act.exec s).1.map answer, (act.exec s).2) := by
  rw [edit, h, exec_bind]
  cases act.exec s with
  | mk result s' => cases result <;> rfl

theorem edit_of_onFound (h : perform e = act >>= fun a => pure (answer a))
    (hexec : act.exec s = s.onFound found next) :
    s.edit e = s.onFound found fun x => (answer (next x).1, (next x).2) := by
  rw [edit_eq h, hexec]
  cases found <;> rfl

end

/-- A move takes its link out first, and puts it back in where the index means a place. -/
theorem moveLink_eq (s : Store σ) (id : String) (index : Json) :
    s.moveLink id index =
      match s.getLink id with
      | .error e => (.error e, s)
      | .ok l =>
        match placeFor? index (s.links.eraseP (·.id == id)).length with
        | none => (.error .notAPosition, { s with links := s.links.eraseP (·.id == id) })
        | some i =>
          (.ok l, bump { s with links := (s.links.eraseP (·.id == id)).insertIdx i l }) := by
  rw [moveLink, Editing.moveLink, exec_lookup_bind]
  cases s.getLink id with
  | error e => rfl
  | ok l =>
    dsimp only
    rw [exec_bind]
    change (exec (match placeFor? index (s.links.eraseP (·.id == id)).length with
      | none => throw Fault.notAPosition
      | some i => _) _) = _
    cases placeFor? index (s.links.eraseP (·.id == id)).length <;> rfl

theorem pruneDanglingLinks_eq_ite (s : Store σ) :
    s.pruneDanglingLinks =
      if (s.danglingLinks.map Link.id).eraseDups.isEmpty then (0, s)
      else ((s.danglingLinks.map Link.id).eraseDups.length, bump { s with
        links := s.links.filter fun l =>
          !(s.danglingLinks.map Link.id).eraseDups.contains l.id }) := by
  change (if (s.danglingLinks.map Link.id).eraseDups.isEmpty then pure 0 else _ :
    StateM (Store σ) Nat).run s = _
  split <;> rfl

theorem edit_moveLink [IdSupply σ] (s : Store σ) (id : String) (index : Json) :
    s.edit (.moveLink id index) = ((s.moveLink id index).1.map .link, (s.moveLink id index).2) :=
  edit_eq rfl s

/-- Pruning cannot fail. -/
theorem exec_pruneDanglingLinks (s : Store σ) :
    (Editing.pruneDanglingLinks : Editing σ Nat).exec s =
      (.ok s.pruneDanglingLinks.1, s.pruneDanglingLinks.2) := by
  rw [pruneDanglingLinks_eq_ite]
  change (if (s.danglingLinks.map Link.id).eraseDups.isEmpty then pure 0 else _ :
    Editing σ Nat).exec s = _
  split <;> rfl

theorem edit_pruneDanglingLinks [IdSupply σ] (s : Store σ) :
    s.edit .pruneDanglingLinks =
      (.ok (.count s.pruneDanglingLinks.1), s.pruneDanglingLinks.2) := by
  rw [edit_eq rfl, exec_pruneDanglingLinks]
  rfl

end PasteRules.Store
