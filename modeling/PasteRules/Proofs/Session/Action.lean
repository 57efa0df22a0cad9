import PasteRules.Session.Step

/-! Actions as functions of what they find. Two of them can be run side by side on sessions that
differ in what no answer shows. -/
namespace PasteRules.Session

variable {σ α β : Type}

def Action.exec (act : Action σ α) (w : Work σ) : Except Fault α × Work σ := (ExceptT.run act).run w

namespace Action

theorem exec_bind (act : Action σ α) (next : α → Action σ β) (w : Work σ) :
    (act >>= next).exec w =
      match act.exec w with
      | (.ok a, w') => (next a).exec w'
      | (.error e, w') => (.error e, w') := by
  simp only [exec, ExceptT.run_bind, StateT.run_bind]
  cases act.run.run w with
  | mk result w' => cases result <;> rfl

theorem exec_session_bind (next : Session σ → Action σ β) (w : Work σ) :
    (session >>= next).exec w = (next w.session).exec w := rfl

@[simp]
theorem exec_ofExcept (result : Except Fault α) (w : Work σ) :
    (ofExcept result : Action σ α).exec w = (result, w) := by
  cases result <;> rfl

/-- The action answers `a` wherever it is run and leaves the session alone. It may print. -/
def Answers (act : Action σ α) (a : α) : Prop :=
  ∀ w, (act.exec w).1 = .ok a ∧ (act.exec w).2.session = w.session

/-- What comes after an action only turns its answer into another. -/
theorem exec_bind_of_answers (act : Action σ α) {next : α → Action σ β} {answer : α → β}
    (h : ∀ a, Answers (next a) (answer a)) (w : Work σ) :
    ((act >>= next).exec w).1 = (act.exec w).1.map answer ∧
      ((act >>= next).exec w).2.session = (act.exec w).2.session := by
  rw [exec_bind]
  cases act.exec w with
  | mk result w' =>
    cases result with
    | error e => exact ⟨rfl, rfl⟩
    | ok a => exact h a w'

namespace Answers

theorem pure (a : α) : Answers (Pure.pure a : Action σ α) a := fun _ => ⟨rfl, rfl⟩

theorem print (line : String) : Answers (Action.print line : Action σ Unit) () :=
  fun _ => ⟨rfl, rfl⟩

theorem bind {act : Action σ α} {next : α → Action σ β} {a : α} {b : β} (h : Answers act a)
    (hnext : Answers (next a) b) : Answers (act >>= next) b := by
  intro w
  obtain ⟨result, hsession⟩ := h w
  rw [exec_bind]
  cases hw : act.exec w with
  | mk r w' =>
    rw [hw] at result hsession
    obtain rfl : r = .ok a := result
    obtain ⟨result', hsession'⟩ := hnext w'
    exact ⟨result', hsession'.trans hsession⟩

theorem session_bind {next : Session σ → Action σ β} {b : β} (h : ∀ s, Answers (next s) b) :
    Answers (session >>= next) b := fun w => h w.session w

theorem forM {act : α → Action σ Unit} (h : ∀ a, Answers (act a) ()) (as : List α) :
    Answers (as.forM act) () := by
  induction as with
  | nil => exact pure ()
  | cons a rest ih => exact bind (h a) ih

theorem printDebug (line : String) : Answers (Action.printDebug line : Action σ Unit) () := by
  refine session_bind fun s => ?_
  split
  · exact print line
  · exact pure ()

theorem printTransformation (rules : List Rule) (before after : String) :
    Answers (Action.printTransformation rules before after : Action σ Unit) () :=
  bind (print _) (bind (print _) (bind (print _) (bind (print _) (bind (print _) (print _)))))

end Answers

/-- Run on sessions that are related, the two actions answer alike and leave related sessions. -/
def Alike (R : Session σ → Session σ → Prop) (act act' : Action σ α) : Prop :=
  ∀ v w, R v.session w.session →
    (act.exec v).1 = (act'.exec w).1 ∧ R (act.exec v).2.session (act'.exec w).2.session

namespace Alike

variable {R : Session σ → Session σ → Prop}

theorem pure (a : α) : Alike R (Pure.pure a : Action σ α) (Pure.pure a) := fun _ _ h => ⟨rfl, h⟩

theorem ofExcept (result : Except Fault α) :
    Alike R (Action.ofExcept result : Action σ α) (Action.ofExcept result) := by
  intro v w h
  rw [exec_ofExcept, exec_ofExcept]
  exact ⟨rfl, h⟩

theorem setSession {s t : Session σ} (h : R s t) :
    Alike R (Action.setSession s) (Action.setSession t) := fun _ _ _ => ⟨rfl, h⟩

theorem of_answers {act act' : Action σ α} {a : α} (h : Answers act a) (h' : Answers act' a) :
    Alike R act act' := by
  intro v w hvw
  obtain ⟨result, hsession⟩ := h v
  obtain ⟨result', hsession'⟩ := h' w
  rw [result, result', hsession, hsession']
  exact ⟨rfl, hvw⟩

theorem bind {act act' : Action σ α} {next next' : α → Action σ β} (h : Alike R act act')
    (hnext : ∀ a, Alike R (next a) (next' a)) : Alike R (act >>= next) (act' >>= next') := by
  intro v w hvw
  obtain ⟨hresult, hR⟩ := h v w hvw
  rw [exec_bind, exec_bind]
  cases hv : act.exec v with
  | mk r v' =>
    cases hw : act'.exec w with
    | mk r' w' =>
      rw [hv, hw] at hresult hR
      obtain rfl : r = r' := hresult
      cases r with
      | ok a => exact hnext a v' w' hR
      | error e => exact ⟨rfl, hR⟩

theorem session_bind {next next' : Session σ → Action σ β}
    (h : ∀ s t, R s t → Alike R (next s) (next' t)) :
    Alike R (session >>= next) (session >>= next') :=
  fun v w hvw => h v.session w.session hvw v w hvw

theorem printDebug (line : String) :
    Alike R (Action.printDebug line : Action σ Unit) (Action.printDebug line) :=
  of_answers (.printDebug line) (.printDebug line)

end Alike

/-- Transforming a text asks for the rules. The rest is to apply them, and perhaps to report. -/
theorem transform_bind (text : Option String) :
    ∃ next : List Rule → Action σ String, transform text = (rules >>= next) ∧
      ∀ rules, Answers (next rules) (Rule.transform rules text) := by
  refine ⟨_, rfl, fun rules => ?_⟩
  cases text with
  | none => exact .pure _
  | some t =>
    refine .session_bind fun s => ?_
    split
    · exact .bind (.printTransformation _ _ _) (.pure _)
    · exact .pure _

/-- The relation joins sessions that have the same store, are both active or both not, and find the
same rules, and it joins what becomes of them if both are made active or not, or if their stores are
edited in the same way. -/
structure Congruent [IdSupply σ] (IsAllowed : Edit → Prop) (R : Session σ → Session σ → Prop) :
    Prop where
  store {s t : Session σ} (h : R s t) : s.store = t.store
  active {s t : Session σ} (h : R s t) : s.active = t.active
  rules : Alike R rules rules
  setActive {s t : Session σ} (h : R s t) (active : Bool) :
    R { s with active } { t with active }
  edit {s t : Session σ} (h : R s t) {e : Edit} (he : IsAllowed e) :
    R { s with store := (s.store.edit e).2 } { t with store := (t.store.edit e).2 }

namespace Congruent

variable [IdSupply σ] {IsAllowed : Edit → Prop} {R : Session σ → Session σ → Prop}
  (hR : Congruent IsAllowed R)

include hR

theorem transform (text : Option String) :
    Alike R (Action.transform text) (Action.transform text) := by
  obtain ⟨next, heq, hnext⟩ := transform_bind (σ := σ) text
  rw [heq]
  exact .bind hR.rules fun rules => .of_answers (hnext rules) (hnext rules)

theorem toggleActive : Alike R Action.toggleActive Action.toggleActive := by
  refine .session_bind fun s t h => ?_
  rw [hR.active h]
  exact .bind (.setSession (hR.setActive h _)) fun _ => .bind (.printDebug _) fun _ => .pure _

theorem paste (types : Json) (text : Option String) (handled : Bool) :
    Alike R (Action.paste types text handled) (Action.paste types text handled) := by
  refine .session_bind fun s t h => ?_
  rw [hR.active h]
  split
  · exact .bind (.printDebug _) fun _ => .pure _
  split
  · exact .bind (.printDebug _) fun _ => .pure _
  refine .bind (.ofExcept _) fun types => .bind (.printDebug _) fun _ => ?_
  split
  · split
    · exact .pure _
    · exact .bind (hR.transform _) fun _ => .bind (.printDebug _) fun _ => .pure _
  · exact .pure _

theorem performEdit {e : Edit} (he : IsAllowed e) : Alike R (Action.edit e) (Action.edit e) := by
  refine .session_bind fun s t h => ?_
  have hedited := hR.edit h he
  rw [hR.store h] at hedited ⊢
  exact .bind (.setSession hedited) fun _ => .ofExcept _

theorem check : Alike R Action.check Action.check := by
  refine .session_bind fun s t h => ?_
  rw [hR.store h]
  refine .bind (.ofExcept _) fun diagnoses => .bind ?_ fun _ => .pure _
  exact .of_answers (.forM (fun _ => .print _) _) (.forM (fun _ => .print _) _)

/-- Every step is answered alike, those apart that show or set whether a session reports. -/
theorem step {step : Step} (hedit : ∀ e, step = .edit e → IsAllowed e) (hsave : step ≠ .save)
    (hdebug : ∀ value, step ≠ .setDebug value) :
    Alike R (Action.step step) (Action.step step) := by
  cases step with
  | edit e => exact .bind (hR.performEdit (hedit e rfl)) fun _ => .pure _
  | ask q =>
    refine .session_bind fun s t h => ?_
    rw [hR.store h]
    exact .bind (.ofExcept _) fun _ => .pure _
  | transform text => exact .bind (hR.transform text) fun _ => .pure _
  | paste types text handled => exact .bind (hR.paste types text handled) fun _ => .pure _
  | toggleActive => exact .bind hR.toggleActive fun _ => .pure _
  | setActive value =>
    exact .session_bind fun s t h => .bind (.setSession (hR.setActive h value)) fun _ => .pure _
  | setDebug value => exact absurd rfl (hdebug value)
  | rules => exact .bind hR.rules fun _ => .pure _
  | save => exact absurd rfl hsave
  | check => exact .bind hR.check fun _ => .pure _

end Congruent

/-- A check answers from the diagnoses and leaves the session alone. -/
theorem exec_check (w : Work σ) :
    (check.exec w).1 = w.session.store.diagnose.map
        (fun ds => ds.all fun d => !d.link.enabled || d.status == .ok) ∧
      (check.exec w).2.session = w.session := by
  unfold check
  rw [exec_session_bind]
  have hreport : ∀ ds : List Diagnosis,
      Answers (ds.forM (fun d => print (w.session.store.reportLine d)) >>= fun _ =>
        (pure (ds.all fun d => !d.link.enabled || d.status == .ok) : Action σ Bool))
        (ds.all fun d => !d.link.enabled || d.status == .ok) :=
    fun ds => .bind (.forM (fun _ => .print _) ds) (.pure _)
  have hexec := exec_bind_of_answers (ofExcept w.session.store.diagnose) hreport w
  rw [exec_ofExcept] at hexec
  exact hexec

end Action
end PasteRules.Session
