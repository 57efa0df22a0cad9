import PasteRules.Proofs.Session.Cache

/-! What steps keep of a session and of what it has printed, a step that fails included. What every
edit keeps of a store, every step of a session keeps of the session's store. -/
namespace PasteRules.Session

variable {σ α β : Type}

namespace Action

/-- Run where `J` holds of the session and `Q` of what has been printed, the action leaves it so,
even if it fails. -/
def Keeps (J : Session σ → Prop) (Q : String → Prop) (act : Action σ α) : Prop :=
  ∀ w, J w.session → Q w.printed → J (act.exec w).2.session ∧ Q (act.exec w).2.printed

namespace Keeps

variable {J : Session σ → Prop} {Q : String → Prop}

theorem pure (a : α) : Keeps J Q (Pure.pure a : Action σ α) := fun _ hJ hQ => ⟨hJ, hQ⟩

theorem ofExcept (result : Except Fault α) : Keeps J Q (Action.ofExcept result : Action σ α) := by
  intro w hJ hQ
  rw [exec_ofExcept]
  exact ⟨hJ, hQ⟩

theorem setSession {s : Session σ} (h : J s) : Keeps J Q (Action.setSession s) :=
  fun _ _ hQ => ⟨h, hQ⟩

theorem print {line : String} (h : ∀ out, Q out → Q (out ++ line ++ "\n")) :
    Keeps J Q (Action.print line : Action σ Unit) := fun w hJ hQ => ⟨hJ, h w.printed hQ⟩

theorem bind {act : Action σ α} {next : α → Action σ β} (h : Keeps J Q act)
    (hnext : ∀ a, Keeps J Q (next a)) : Keeps J Q (act >>= next) := by
  intro w hJ hQ
  obtain ⟨hsession, hprinted⟩ := h w hJ hQ
  rw [exec_bind]
  cases hact : act.exec w with
  | mk result w' =>
    rw [hact] at hsession hprinted
    cases result with
    | ok a => exact hnext a w' hsession hprinted
    | error e => exact ⟨hsession, hprinted⟩

theorem session_bind {next : Session σ → Action σ β} (h : ∀ s, J s → Keeps J Q (next s)) :
    Keeps J Q (session >>= next) := fun w hJ hQ => h w.session hJ w hJ hQ

end Keeps
end Action

/-- `J` holds of a session whatever rules it has compiled, and `Q` bears a further line wherever a
session of `J` is in debug mode. -/
structure Consulting (J : Session σ → Prop) (Q : String → Prop) : Prop where
  compiled {s : Session σ} (h : J s) (compiled : Option (Nat × List Rule)) : J { s with compiled }
  print {s : Session σ} (h : J s) (hdebug : s.debug = true) (line out : String) (hout : Q out) :
    Q (out ++ line ++ "\n")

namespace Consulting

open Session.Action

variable {J : Session σ → Prop} {Q : String → Prop} (hc : Consulting J Q)

include hc

theorem printDebug (line : String) : Keeps J Q (Action.printDebug line : Action σ Unit) := by
  refine .session_bind fun s hs => ?_
  split
  · next hdebug => exact .print (hc.print hs hdebug line)
  · exact .pure ()

theorem rules : Keeps J Q (Action.rules : Action σ (List Rule)) := by
  have hcompile : Keeps J Q (Action.compile : Action σ (List Rule)) :=
    .session_bind fun s hs => .bind (.ofExcept _) fun rules =>
      .bind (.setSession (hc.compiled hs _)) fun _ => .bind (hc.printDebug _) fun _ => .pure rules
  intro w hJ hQ
  rw [exec_rules]
  split
  · split
    · exact ⟨hJ, hQ⟩
    · exact hcompile w hJ hQ
  · exact hcompile w hJ hQ

theorem transform (text : Option String) :
    Keeps J Q (Action.transform text : Action σ String) := by
  refine .bind hc.rules fun rules => ?_
  cases text with
  | none => exact .pure _
  | some t =>
    refine .session_bind fun s hs => ?_
    split
    · next hprints =>
      have hdebug : s.debug = true := (Bool.and_eq_true_iff.mp hprints).1
      have hprint : ∀ line, Keeps J Q (Action.print line : Action σ Unit) := fun line =>
        .print (hc.print hs hdebug line)
      have hreport : Keeps J Q (printTransformation rules t (Rule.transform rules (some t))) :=
        .bind (hprint _) fun _ => .bind (hprint _) fun _ => .bind (hprint _) fun _ =>
          .bind (hprint _) fun _ => .bind (hprint _) fun _ => hprint _
      exact .bind hreport fun _ => .pure _
    · exact .pure _

theorem paste (types : Json) (text : Option String) (handled : Bool) :
    Keeps J Q (Action.paste types text handled : Action σ PasteDecision) := by
  refine .session_bind fun s _ => ?_
  split
  · exact .bind (hc.printDebug _) fun _ => .pure _
  split
  · exact .bind (hc.printDebug _) fun _ => .pure _
  refine .bind (.ofExcept _) fun types => .bind (hc.printDebug _) fun _ => ?_
  split
  · split
    · exact .pure _
    · exact .bind (hc.transform _) fun _ => .bind (hc.printDebug _) fun _ => .pure _
  · exact .pure _

end Consulting

/-- `J` holds of a session whatever rules it has compiled, whether it is active or not, and after
every edit of its store, and `Q` bears a further line wherever a session of `J` is in debug mode. -/
structure Lasting [IdSupply σ] (J : Session σ → Prop) (Q : String → Prop) : Prop where
  compiled {s : Session σ} (h : J s) (compiled : Option (Nat × List Rule)) : J { s with compiled }
  active {s : Session σ} (h : J s) (active : Bool) : J { s with active }
  edit {s : Session σ} (h : J s) (e : Edit) : J { s with store := (s.store.edit e).2 }
  print {s : Session σ} (h : J s) (hdebug : s.debug = true) (line out : String) (hout : Q out) :
    Q (out ++ line ++ "\n")

namespace Lasting

open Session.Action

variable [IdSupply σ] {J : Session σ → Prop} {Q : String → Prop} (hl : Lasting J Q)

include hl

theorem consulting : Consulting J Q := ⟨hl.compiled, hl.print⟩

/-- Every step keeps what lasts, but for checks, which print always, and the setting of debug mode.
-/
theorem step {step : Step} (hcheck : step ≠ .check) (hdebug : ∀ value, step ≠ .setDebug value) :
    Keeps J Q (Action.step step : Action σ Reply) := by
  have hc := hl.consulting
  cases step with
  | edit e =>
    refine .bind (.session_bind fun s hs => ?_) fun _ => .pure _
    exact .bind (.setSession (hl.edit hs e)) fun _ => .ofExcept _
  | ask q => exact .session_bind fun s _ => .bind (.ofExcept _) fun _ => .pure _
  | transform text => exact .bind (hc.transform text) fun _ => .pure _
  | paste types text handled => exact .bind (hc.paste types text handled) fun _ => .pure _
  | toggleActive =>
    refine .bind (.session_bind fun s hs => ?_) fun _ => .pure _
    exact .bind (.setSession (hl.active hs _)) fun _ => .bind (hc.printDebug _) fun _ => .pure _
  | setActive value =>
    exact .session_bind fun s hs => .bind (.setSession (hl.active hs value)) fun _ => .pure _
  | setDebug value => exact absurd rfl (hdebug value)
  | rules => exact .bind hc.rules fun _ => .pure _
  | save =>
    refine .bind (.session_bind fun s hs => ?_) fun _ => .pure _
    have hpruned := hl.edit hs .pruneDanglingLinks
    rw [Store.edit_pruneDanglingLinks] at hpruned
    exact .bind (.setSession hpruned) fun _ => .pure _
  | check => exact absurd rfl hcheck

end Lasting

variable [IdSupply σ]

theorem next_check_session (s : Session σ) : (s.next .check).2 = s := by
  have hreply : ∀ good, Action.Answers (pure (Reply.flag good) : Action σ Reply) (.flag good) :=
    fun _ => .pure _
  have hsession := (Action.exec_bind_of_answers Action.check hreply ⟨s, ""⟩).2
  exact hsession.trans (Action.exec_check ⟨s, ""⟩).2

/-- What edits keep of a store holds after any steps. -/
theorem after_keeps {I : Store σ → Prop}
    (hedit : ∀ (store : Store σ) (e : Edit), I store → I (store.edit e).2) {s : Session σ}
    (h : I s.store) (steps : List Step) : I (s.after steps).store := by
  have hl : Lasting (fun s : Session σ => I s.store) (fun _ => True) := {
    compiled := fun h _ => h
    active := fun h _ => h
    edit := fun h e => hedit _ e h
    print := fun _ _ _ _ _ => trivial }
  induction steps generalizing s with
  | nil => exact h
  | cons step rest ih =>
    refine ih (s := (s.next step).2) ?_
    by_cases hcheck : step = .check
    · rw [hcheck, next_check_session]
      exact h
    by_cases hdebug : ∃ value, step = .setDebug value
    · obtain ⟨value, rfl⟩ := hdebug
      exact h
    · have hstep := hl.step hcheck fun value hvalue => hdebug ⟨value, hvalue⟩
      exact (hstep ⟨s, ""⟩ h trivial).1

end PasteRules.Session
