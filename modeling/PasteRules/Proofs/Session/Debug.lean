import PasteRules.Proofs.Session.Invariant
import PasteRules.Proofs.Session.Pruning

/-! Debug mode decides what is printed and nothing else. Sessions that differ in it go through the
same stores and the same rules, and without it nothing is printed but checks. -/
namespace PasteRules

def Json.without (name : String) : Json → Json
  | .obj fields => .obj (fields.filter (·.1 != name))
  | v => v

theorem Settings.without_debugMode (fields : List (String × Json)) (active debug debug' : Bool) :
    (toJsonWith fields active debug).without "debugMode" =
      (toJsonWith fields active debug').without "debugMode" := by
  simp [toJsonWith, Json.without]

namespace Session

variable {σ α β : Type}

/-- The sessions differ at most in debug mode. -/
structure Peers (s t : Session σ) : Prop where
  store : s.store = t.store
  active : s.active = t.active
  compiled : s.compiled = t.compiled

def Step.undebugged : Step → Step
  | .setDebug _ => .setDebug false
  | step => step

/-- What is answered to a step apart from debug mode itself: a save shows it in a field, and to set
it is answered by what it is set to. -/
def Step.shown : Step → Except Fault Reply → Except Fault Reply
  | .save, .ok (.answer (.blob b)) => .ok (.answer (.blob (b.without "debugMode")))
  | .setDebug _, .ok (.flag _) => .ok (.flag false)
  | _, reply => reply

theorem Step.undebugged_eq {step step' : Step} (h : step.undebugged = step'.undebugged) :
    (∃ value value', step = .setDebug value ∧ step' = .setDebug value') ∨
      (step = step' ∧ ∀ value, step ≠ .setDebug value) := by
  cases step <;> cases step' <;> simp_all [undebugged]

theorem Step.shown_eq_self {step : Step} (hsave : step ≠ .save)
    (hdebug : ∀ value, step ≠ .setDebug value) (reply : Except Fault Reply) :
    step.shown reply = reply := by
  unfold shown
  split
  · exact absurd rfl hsave
  · exact absurd rfl (hdebug _)
  · rfl

namespace Action

theorem compile_peers : Alike Peers (compile : Action σ (List Rule)) compile := by
  refine .session_bind fun s t h => ?_
  rw [h.store]
  refine .bind (.ofExcept _) fun rules => .bind (.setSession ?_) fun _ =>
    .bind (.printDebug _) fun _ => .pure rules
  exact ⟨rfl, h.active, rfl⟩

theorem rules_peers : Alike Peers (rules : Action σ (List Rule)) rules := by
  intro v w h
  rw [exec_rules, exec_rules, h.compiled, h.store]
  cases w.session.compiled with
  | none => exact compile_peers v w h
  | some c =>
    obtain ⟨revision, rules⟩ := c
    dsimp only
    by_cases hlast : revision = w.session.store.revision
    · rw [if_pos hlast, if_pos hlast]
      exact ⟨rfl, h⟩
    · rw [if_neg hlast, if_neg hlast]
      exact compile_peers v w h

theorem peers_congruent [IdSupply σ] : Congruent (fun _ => True) (Peers (σ := σ)) where
  store h := h.store
  active h := h.active
  rules := rules_peers
  setActive h _ := ⟨h.store, rfl, h.compiled⟩
  edit h e _ := ⟨congrArg (fun store => (store.edit e).2) h.store, h.active, h.compiled⟩

end Action

variable [IdSupply σ]

/-- Steps that differ at most in the debug mode they set are answered alike apart from it, and leave
peers. -/
theorem Peers.next {s t : Session σ} (h : Peers s t) {step step' : Step}
    (hstep : step.undebugged = step'.undebugged) :
    step.shown (s.next step).1 = step'.shown (t.next step').1 ∧
      Peers (s.next step).2 (t.next step').2 := by
  rcases Step.undebugged_eq hstep with ⟨value, value', rfl, rfl⟩ | ⟨rfl, hdebug⟩
  · exact ⟨rfl, h.store, h.active, h.compiled⟩
  by_cases hsave : step = .save
  · subst hsave
    obtain ⟨hstore, hactive, hcompiled⟩ := h
    rw [next_save_eq, next_save_eq, hstore, hactive]
    refine ⟨?_, rfl, rfl, hcompiled⟩
    simp only [Step.shown]
    rw [Settings.without_debugMode _ _ s.debug t.debug]
  · obtain ⟨hreply, hpeers⟩ := Action.peers_congruent.step (fun _ _ => trivial) hsave hdebug
      ⟨s, ""⟩ ⟨t, ""⟩ h
    rw [Step.shown_eq_self hsave hdebug, Step.shown_eq_self hsave hdebug]
    exact ⟨hreply, hpeers⟩

/-- What a run shows apart from debug mode: to each step the answer, and the store with its revision
and the switch for being active as they are after it. -/
def observations (s : Session σ) : List Step → List (Except Fault Reply × Store σ × Bool)
  | [] => []
  | step :: rest =>
    (step.shown (s.next step).1, (s.next step).2.store, (s.next step).2.active) ::
      (s.next step).2.observations rest

theorem Peers.observations {s t : Session σ} (h : Peers s t) {steps steps' : List Step}
    (hsteps : steps.map Step.undebugged = steps'.map Step.undebugged) :
    s.observations steps = t.observations steps' := by
  induction steps generalizing s t steps' with
  | nil =>
    cases steps' with
    | nil => rfl
    | cons step' rest' => cases hsteps
  | cons step rest ih =>
    cases steps' with
    | nil => cases hsteps
    | cons step' rest' =>
      obtain ⟨hstep, hrest⟩ := List.cons.inj hsteps
      obtain ⟨hreply, hpeers⟩ := h.next hstep
      have hafter := ih hpeers hrest
      unfold Session.observations
      rw [hreply, hpeers.store, hpeers.active, hafter]

theorem next_quiet {s : Session σ} (h : s.debug = false) {step : Step} (hcheck : step ≠ .check)
    (hdebug : ∀ value, step ≠ .setDebug value) :
    (s.run (Action.step step)).2.1 = "" ∧ (s.next step).2.debug = false := by
  have hl : Lasting (fun s : Session σ => s.debug = false) (fun printed => printed = "") := {
    compiled := fun h _ => h
    active := fun h _ => h
    edit := fun h _ => h
    print := fun h hdebug _ _ _ => by
      rw [h] at hdebug
      cases hdebug }
  obtain ⟨hsession, hprinted⟩ := hl.step hcheck hdebug ⟨s, ""⟩ h rfl
  exact ⟨hprinted, hsession⟩

/-- Without debug mode nothing but a check prints anything. -/
theorem run_quiet {s : Session σ} (h : s.debug = false) {step : Step} (hcheck : step ≠ .check) :
    (s.run (Action.step step)).2.1 = "" := by
  by_cases hdebug : ∃ value, step = .setDebug value
  · obtain ⟨value, rfl⟩ := hdebug
    rfl
  · exact (next_quiet h hcheck fun value hvalue => hdebug ⟨value, hvalue⟩).1

theorem after_debug {s : Session σ} (h : s.debug = false) {steps : List Step}
    (hsteps : .setDebug true ∉ steps) : (s.after steps).debug = false := by
  induction steps generalizing s with
  | nil => exact h
  | cons step rest ih =>
    obtain ⟨hstep, hrest⟩ : .setDebug true ≠ step ∧ .setDebug true ∉ rest := by
      simpa [not_or] using hsteps
    refine ih (s := (s.next step).2) ?_ hrest
    by_cases hcheck : step = .check
    · rw [hcheck, next_check_session]
      exact h
    by_cases hdebug : ∃ value, step = .setDebug value
    · obtain ⟨value, rfl⟩ := hdebug
      cases value with
      | true => exact absurd rfl hstep
      | false => rfl
    · exact (next_quiet h hcheck fun value hvalue => hdebug ⟨value, hvalue⟩).2

end Session
end PasteRules
