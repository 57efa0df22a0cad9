import PasteRules.CommandLine.Run
import PasteRules.Proofs.Session.Supply

/-! Jobs as functions of the world they find, and what a run makes of the way in which its job ends.
-/
namespace PasteRules.CommandLine

variable {δ α β : Type}

def Job.exec (job : Job δ α) (w : World δ) : Except Stop α × World δ := (ExceptT.run job).run w

def resultOf : Except Stop Unit → Except Fault Nat
  | .ok () => .ok successCode
  | .error (.exit code) => .ok code
  | .error (.fault f) => .error f

theorem resultOf_error_ne {stop : Stop} (h : stop ≠ .exit successCode) :
    resultOf (.error stop) ≠ .ok successCode := by
  intro heq
  cases stop with
  | exit code => exact h (congrArg Stop.exit (Except.ok.inj heq))
  | fault f => cases heq

theorem run_eq {σ : Type} [FileKeeper δ] [IdSupply σ] (arguments : List String) (stdin : String)
    (files : δ) (ids : σ) :
    run arguments stdin files ids =
      ⟨resultOf ((Job.respond arguments stdin ids).exec ⟨"", "", files⟩).1,
        ((Job.respond arguments stdin ids).exec ⟨"", "", files⟩).2⟩ := by
  unfold run Job.exec
  cases (ExceptT.run (Job.respond arguments stdin ids)).run ⟨"", "", files⟩ with
  | mk result world =>
    cases result with
    | ok a => rfl
    | error stop => cases stop <;> rfl

namespace Job

theorem exec_bind (job : Job δ α) (next : α → Job δ β) (w : World δ) :
    (job >>= next).exec w =
      match job.exec w with
      | (.ok a, w') => (next a).exec w'
      | (.error stop, w') => (.error stop, w') := by
  simp only [exec, ExceptT.run_bind, StateT.run_bind]
  cases job.run.run w with
  | mk result w' => cases result <;> rfl

theorem exec_bind_of_ok {job : Job δ α} {next : α → Job δ β} {w w' : World δ} {a : α}
    (h : job.exec w = (.ok a, w')) : (job >>= next).exec w = (next a).exec w' := by
  rw [exec_bind, h]

theorem exec_bind_of_error {job : Job δ α} {next : α → Job δ β} {w : World δ} {stop : Stop}
    (h : (job.exec w).1 = .error stop) : ((job >>= next).exec w).1 = .error stop := by
  rw [exec_bind]
  cases hjob : job.exec w with
  | mk result w' =>
    rw [hjob] at h
    obtain rfl : result = .error stop := h
    rfl

theorem world_bind_of_error {job : Job δ α} {next : α → Job δ β} {w : World δ} {stop : Stop}
    (h : (job.exec w).1 = .error stop) : ((job >>= next).exec w).2 = (job.exec w).2 := by
  rw [exec_bind]
  cases hjob : job.exec w with
  | mk result w' =>
    rw [hjob] at h
    obtain rfl : result = .error stop := h
    rfl

theorem exec_get_bind (next : World δ → Job δ α) (w : World δ) :
    (get >>= next).exec w = (next w).exec w := rfl

variable {σ : Type}

theorem respond_of_work [FileKeeper δ] [IdSupply σ] {arguments : List String} {o : Options}
    (h : requestOf arguments = .work o) (stdin : String) (ids : σ) :
    (respond arguments stdin ids : Job δ Unit) = work o stdin ids := by
  unfold respond
  rw [h]

theorem exec_act (s : Session σ) (action : Session.Action σ α) (w : World δ) :
    (act s action).exec w =
      (((s.run action).1.map fun a => (a, (s.run action).2.2)).mapError Stop.fault,
        { w with stdout := w.stdout ++ (s.run action).2.1 }) := by
  unfold act
  cases s.run action with
  | mk result rest =>
    obtain ⟨printed, s'⟩ := rest
    cases result <;> rfl

/-- Saving a session with a sound graph prints nothing. -/
theorem exec_act_save {s : Session σ} (h : s.store.Sound) (w : World δ) :
    (act s Session.Action.save).exec w = (.ok (s.settings.toJson, s), w) := by
  have hprune : s.store.pruneDanglingLinks = (0, s.store) :=
    Store.pruneDanglingLinks_of_nil h.danglingLinks_eq_nil
  have hrun : s.run Session.Action.save =
      (.ok (Settings.toJsonWith s.store.pruneDanglingLinks.2.fields s.active s.debug), "",
        { s with store := s.store.pruneDanglingLinks.2 }) := rfl
  rw [exec_act, hrun, hprune]
  simp only [String.append_empty]
  rfl

/-- Transformed texts depend neither on the session's supply of identifiers nor on the files, which
they leave alone. -/
theorem exec_transformAll_resupply (ids : σ) (s : Session σ) (texts : List String) (w : World δ)
    (files : δ) :
    (transformAll (s.resupply ids) texts).exec { w with files } =
      (((transformAll s texts).exec w).1, { ((transformAll s texts).exec w).2 with files }) := by
  induction texts generalizing s w with
  | nil => rfl
  | cons t rest ih =>
    unfold transformAll
    rw [exec_bind, exec_bind, exec_act, exec_act, Session.run_transform_resupply]
    cases (s.run (Session.Action.transform (some t))).1 with
    | error f => rfl
    | ok result =>
      let line := s.run (Session.Action.transform (some t))
      exact ih line.2.2 { w with stdout := w.stdout ++ line.2.1 ++ (result ++ "\n") }

end Job
end PasteRules.CommandLine
