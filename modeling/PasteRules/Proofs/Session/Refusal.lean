import PasteRules.Proofs.Session.Action
import PasteRules.Proofs.Session.Run
import PasteRules.Proofs.Store.Lookup

/-! Edits that are refused. They are those that name what is not there, they say which identifier
that is, and they leave no trace: whatever comes later is answered as if they had never been tried.
-/
namespace PasteRules

def missingFrom (ids : List String) (id : String) : Option String :=
  if id ∈ ids then none else some id

/-- The first identifier that an edit names and nothing of the kind it means has. -/
def Edit.missing? {σ : Type} (s : Store σ) : Edit → Option String
  | .editPattern id _ | .removePattern id => missingFrom (s.patterns.map Fragment.id) id
  | .editReplacer id _ | .removeReplacer id => missingFrom (s.replacers.map Fragment.id) id
  | .addLink p r _ _ =>
    (missingFrom (s.patterns.map Fragment.id) p).or (missingFrom (s.replacers.map Fragment.id) r)
  | .removeLink id | .setLinkEnabled id _ | .setLinkComment id _ | .moveLink id _ =>
    missingFrom (s.links.map Link.id) id
  | .addPattern _ | .addReplacer _ | .pruneDanglingLinks => none

def Edit.joinsAgain {σ : Type} (s : Store σ) : Edit → Prop
  | .addLink p r _ _ =>
    p ∈ s.patterns.map Fragment.id ∧ r ∈ s.replacers.map Fragment.id ∧
      (p, r) ∈ s.links.map Link.pair
  | _ => False

def Query.missing? {σ : Type} (s : Store σ) : Query → Option String
  | .getPattern id => missingFrom (s.patterns.map Fragment.id) id
  | .getReplacer id => missingFrom (s.replacers.map Fragment.id) id
  | .getLink id => missingFrom (s.links.map Link.id) id
  | _ => none

def Query.isLookup : Query → Bool
  | .getPattern _ | .getReplacer _ | .getLink _ => true
  | _ => false

/-- The result is a failure if and only if an identifier is missing, which the failure names. -/
def FailsFor {α : Type} (missing : Option String) (result : Except Fault α) : Prop :=
  ∀ fault, result = .error fault ↔ ∃ id, missing = some id ∧ fault = .unrecognisedId id

/-- A result that is a failure, or that nothing has come of. -/
inductive Refused : Except Fault Answer → Prop
  | failed (fault : Fault) : Refused (.error fault)
  | nothing : Refused (.ok .nothing)

theorem FailsFor.map {α β : Type} {missing : Option String} {result : Except Fault α}
    (h : FailsFor missing result) (f : α → β) : FailsFor missing (result.map f) := by
  intro fault
  rw [← h fault]
  cases result with
  | ok a => exact iff_of_false nofun nofun
  | error e => exact ⟨fun heq => (by cases heq; rfl), fun heq => (by cases heq; rfl)⟩

theorem FailsFor.of_ok {α : Type} {a : α} : FailsFor none (.ok a) := by
  intro fault
  simp

theorem FailsFor.of_missing {α : Type} {id : String} :
    FailsFor (some id) (.error (.unrecognisedId id) : Except Fault α) := by
  intro fault
  simp [eq_comm]

theorem missingFrom_eq_none {ids : List String} {id : String} (h : id ∈ ids) :
    missingFrom ids id = none := if_pos h

theorem missingFrom_eq_some {ids : List String} {id : String} (h : id ∉ ids) :
    missingFrom ids id = some id := if_neg h

namespace Lookup

variable {α β : Type} {ids : List String} {id : String}

theorem failsFor {result : Except Fault α} (h : Lookup ids id result) (f : α → β) :
    FailsFor (missingFrom ids id) (result.map f) := by
  cases h with
  | found x h => exact missingFrom_eq_none h ▸ .of_ok
  | missing h => exact missingFrom_eq_some h ▸ .of_missing

end Lookup

namespace Store

variable {σ α β : Type} {s : Store σ}

theorem ask_failsFor (s : Store σ) {q : Query} (hq : q.isLookup = true) :
    FailsFor (q.missing? s) (s.ask q) := by
  cases q with
  | getPattern id => exact (s.lookup_pattern id).failsFor _
  | getReplacer id => exact (s.lookup_replacer id).failsFor _
  | getLink id => exact (s.lookup_link id).failsFor _
  | _ => cases hq

/-- An edit that fails if and only if an identifier is missing, that nothing comes of if and only if
it joins a joined pair, and that leaves the store alone in both cases. -/
structure Atomic (s : Store σ) (missing : Option String) (again : Prop)
    (outcome : Except Fault Answer × Store σ) : Prop where
  fails : FailsFor missing outcome.1
  nothing : outcome.1 = .ok .nothing ↔ again
  unchanged : Refused outcome.1 → outcome.2 = s

theorem Atomic.of_ok {again : Prop} {answer : Answer} {s' : Store σ} (h : answer ≠ .nothing)
    (hagain : ¬again) : s.Atomic none again (.ok answer, s') := by
  have hnothing : (.ok answer : Except Fault Answer) ≠ .ok .nothing := fun heq => by
    cases heq
    exact h rfl
  refine ⟨.of_ok, iff_of_false hnothing hagain, fun hrefused => ?_⟩
  cases hrefused
  exact absurd rfl h

theorem Atomic.of_missing {again : Prop} {id : String} (hagain : ¬again) :
    s.Atomic (some id) again (.error (.unrecognisedId id), s) :=
  ⟨.of_missing, iff_of_false nofun hagain, fun _ => rfl⟩

/-- An edit that looks something up first, and then cannot fail, fails as the lookup does. -/
theorem Atomic.of_lookup {ids : List String} {id : String} {found : Except Fault α}
    {next : α → Answer × Store σ} (h : Lookup ids id found)
    (hanswer : ∀ x, (next x).1 ≠ .nothing) :
    s.Atomic (missingFrom ids id) False (s.onFound found next) := by
  cases h with
  | found x h => exact missingFrom_eq_none h ▸ .of_ok (hanswer _) not_false
  | missing h => exact missingFrom_eq_some h ▸ .of_missing not_false

variable [IdSupply σ]

theorem addLink_atomic (s : Store σ) (p r : String) (enabled : Bool) (comment : Option String) :
    s.Atomic (Edit.missing? s (.addLink p r enabled comment))
      (Edit.joinsAgain s (.addLink p r enabled comment))
      (s.edit (.addLink p r enabled comment)) := by
  rw [edit_eq rfl, Edit.missing?]
  rcases s.addLink_cases p r enabled (comment.getD "") with
    ⟨hp, h⟩ | ⟨hp, hr, h⟩ | ⟨hp, hr, hjoined, h⟩ | ⟨hp, hr, hapart, id, ids, -, -, h⟩
  · rw [h, missingFrom_eq_some hp]
    exact .of_missing fun hagain => hp hagain.1
  · rw [h, missingFrom_eq_none hp, missingFrom_eq_some hr]
    exact .of_missing fun hagain => hr hagain.2.1
  · rw [h, missingFrom_eq_none hp, missingFrom_eq_none hr]
    exact ⟨.of_ok, iff_of_true rfl ⟨hp, hr, hjoined⟩, fun _ => rfl⟩
  · rw [h, missingFrom_eq_none hp, missingFrom_eq_none hr]
    exact .of_ok nofun fun hagain => hapart hagain.2.2

theorem moveLink_atomic (s : Store σ) (id : String) (i : Int) :
    s.Atomic (missingFrom (s.links.map Link.id) id) False (s.edit (.moveLink id (.int i))) := by
  have hl := s.lookup_link id
  rw [edit_moveLink, moveLink_eq]
  generalize s.getLink id = found at hl
  cases hl with
  | missing hid =>
    rw [missingFrom_eq_some hid]
    exact .of_missing not_false
  | found l hid =>
    -- An integer always means a place, so the link that is taken out comes back in.
    rw [missingFrom_eq_none hid]
    change s.Atomic none False (.ok (.link l), _)
    exact .of_ok nofun not_false

theorem edit_atomic (s : Store σ) {e : Edit} (he : e.hasIntegerIndex = true) :
    s.Atomic (e.missing? s) (e.joinsAgain s) (s.edit e) := by
  cases e with
  | addPattern text => exact .of_ok nofun not_false
  | addReplacer text => exact .of_ok nofun not_false
  | editPattern id text =>
    rw [edit_of_onFound rfl (Editing.exec_editPattern id text s)]
    exact .of_lookup (s.lookup_pattern id) nofun
  | editReplacer id text =>
    rw [edit_of_onFound rfl (Editing.exec_editReplacer id text s)]
    exact .of_lookup (s.lookup_replacer id) nofun
  | removePattern id =>
    rw [edit_of_onFound rfl (Editing.exec_removePattern id s)]
    exact .of_lookup (s.lookup_pattern id) nofun
  | removeReplacer id =>
    rw [edit_of_onFound rfl (Editing.exec_removeReplacer id s)]
    exact .of_lookup (s.lookup_replacer id) nofun
  | addLink p r enabled comment => exact s.addLink_atomic p r enabled comment
  | removeLink id =>
    rw [edit_of_onFound rfl (Editing.exec_removeLink id s)]
    exact .of_lookup (s.lookup_link id) nofun
  | setLinkEnabled id enabled =>
    rw [edit_of_onFound rfl (Editing.exec_setLinkEnabled id enabled s)]
    exact .of_lookup (s.lookup_link id) nofun
  | setLinkComment id comment =>
    rw [edit_of_onFound rfl (Editing.exec_setLinkComment id (comment.getD "") s)]
    exact .of_lookup (s.lookup_link id) nofun
  | moveLink id index =>
    cases index with
    | int i => exact s.moveLink_atomic id i
    | _ => cases he
  | pruneDanglingLinks =>
    rw [edit_pruneDanglingLinks]
    exact .of_ok nofun not_false

end Store

namespace Session

variable {σ : Type} [IdSupply σ]

/-- A session answers an edit as its store does, and nothing but the store changes. -/
theorem next_edit (s : Session σ) (e : Edit) :
    s.next (.edit e) =
      ((s.store.edit e).1.map Reply.answer, { s with store := (s.store.edit e).2 }) := by
  have hnext : s.next (.edit e) =
      let (reply, w) := (Action.step (.edit e)).exec (⟨s, ""⟩ : Work σ)
      (reply, w.session) := rfl
  have hedit : (Action.edit e).exec (⟨s, ""⟩ : Work σ) =
      ((s.store.edit e).1, ⟨{ s with store := (s.store.edit e).2 }, ""⟩) := by
    have hbind : (Action.edit e : Action σ Answer) = Action.session >>= fun s =>
        Action.setSession { s with store := (s.store.edit e).2 } >>= fun _ =>
          Action.ofExcept (s.store.edit e).1 := rfl
    rw [hbind, Action.exec_session_bind, Action.exec_bind]
    exact Action.exec_ofExcept _ _
  simp only [hnext, Action.step, Action.exec_bind, hedit]
  cases (s.store.edit e).1 <;> rfl

/-- A session answers a question as its store does. -/
theorem next_ask (s : Session σ) (q : Query) :
    s.next (.ask q) = ((s.store.ask q).map Reply.answer, s) := by
  have hnext : s.next (.ask q) =
      let (reply, w) := (Action.step (.ask q)).exec (⟨s, ""⟩ : Work σ)
      (reply, w.session) := rfl
  have hstep : (Action.step (.ask q) : Action σ Reply) = Action.session >>= fun s =>
      Action.ofExcept (s.store.ask q) >>= fun a => pure (.answer a) := rfl
  rw [hnext, hstep, Action.exec_session_bind, Action.exec_bind, Action.exec_ofExcept]
  cases s.store.ask q <;> rfl

/-- A step that leaves a session as it was is not noticed by those after it. -/
theorem unnoticed {s : Session σ} {step : Step} (h : (s.next step).2 = s) (rest : List Step) :
    s.replies (step :: rest) = (s.next step).1 :: s.replies rest ∧
      s.after (step :: rest) = s.after rest := by
  have hreplies : s.replies (step :: rest) = (s.next step).1 :: (s.next step).2.replies rest := rfl
  have hafter : s.after (step :: rest) = (s.next step).2.after rest := rfl
  rw [hreplies, hafter, h]
  exact ⟨rfl, rfl⟩

/-- A lookup fails if and only if what it asks for is missing, and an edit if and only if something
that it names is; the failure says what. Nothing comes of an edit that succeeds if and only if it
joins a joined pair. What fails, and what nothing comes of, leaves the whole session as it was, and
whatever steps come later are answered as if it had never been tried. -/
theorem refused_without_trace (s : Session σ) {e : Edit} (he : e.hasIntegerIndex = true) :
    (∀ q : Query, q.isLookup = true →
      FailsFor (q.missing? s.store) (s.next (.ask q)).1 ∧ (s.next (.ask q)).2 = s) ∧
    FailsFor (e.missing? s.store) (s.next (.edit e)).1 ∧
    ((s.next (.edit e)).1 = .ok (.answer .nothing) ↔ e.joinsAgain s.store) ∧
    ((∃ fault, (s.next (.edit e)).1 = .error fault) ∨ e.joinsAgain s.store →
      (s.next (.edit e)).2 = s ∧
      ∀ rest, s.replies (.edit e :: rest) = (s.next (.edit e)).1 :: s.replies rest ∧
        s.after (.edit e :: rest) = s.after rest) := by
  have hatomic := s.store.edit_atomic he
  have hlookup (q : Query) (hq : q.isLookup = true) :
      FailsFor (q.missing? s.store) (s.next (.ask q)).1 ∧ (s.next (.ask q)).2 = s := by
    rw [s.next_ask q]
    exact ⟨(s.store.ask_failsFor hq).map _, rfl⟩
  have hnothing : (s.next (.edit e)).1 = .ok (.answer .nothing) ↔ e.joinsAgain s.store := by
    rw [← hatomic.nothing, s.next_edit e]
    cases (s.store.edit e).1 with
    | ok a => exact ⟨fun h => (by cases h; rfl), fun h => (by cases h; rfl)⟩
    | error fault => exact iff_of_false nofun nofun
  have hsame : (∃ fault, (s.next (.edit e)).1 = .error fault) ∨ e.joinsAgain s.store →
      (s.next (.edit e)).2 = s := by
    intro h
    have hrefused : Refused (s.store.edit e).1 := by
      rcases h with ⟨fault, hfault⟩ | hagain
      · rw [s.next_edit e] at hfault
        cases hresult : (s.store.edit e).1 with
        | ok a =>
          rw [hresult] at hfault
          cases hfault
        | error e => exact .failed e
      · exact hatomic.nothing.mpr hagain ▸ .nothing
    rw [s.next_edit e, hatomic.unchanged hrefused]
  refine ⟨hlookup, ?_, hnothing, fun h => ⟨hsame h, unnoticed (hsame h)⟩⟩
  rw [s.next_edit e]
  exact hatomic.fails.map _

def joinedOnce : Session Counting :=
  start ⟨[⟨"p-1", "a"⟩], [⟨"r-1", "X"⟩], [⟨"l-1", "p-1", "r-1", true, ""⟩], 3, ⟨2⟩⟩ true false

theorem joinedOnce_refuses :
    (joinedOnce.next (.edit (.addLink "p-7" "r-7" true none))).1 =
        .error (.unrecognisedId "p-7") ∧
      (joinedOnce.next (.edit (.addLink "p-1" "r-1" false none))).1 = .ok (.answer .nothing) ∧
      joinedOnce.replies [.edit (.addLink "p-1" "r-1" false none), .edit (.addPattern "b")] =
        (joinedOnce.next (.edit (.addLink "p-1" "r-1" false none))).1 ::
          joinedOnce.replies [.edit (.addPattern "b")] := by
  obtain ⟨-, hfails, -⟩ :=
    joinedOnce.refused_without_trace (e := .addLink "p-7" "r-7" true none) rfl
  obtain ⟨-, -, hnothing, htrace⟩ :=
    joinedOnce.refused_without_trace (e := .addLink "p-1" "r-1" false none) rfl
  have hagain : Edit.joinsAgain joinedOnce.store (.addLink "p-1" "r-1" false none) :=
    ⟨by decide, by decide, by decide⟩
  exact ⟨(hfails _).mpr ⟨"p-7", by decide +kernel, rfl⟩, hnothing.mpr hagain,
    ((htrace (.inr hagain)).2 _).1⟩

end Session
end PasteRules
