import PasteRules.Proofs.CommandLine.SettingsFile

/-! The two stages of a run: the settings are loaded and perhaps written back, and then they are put
to use. The second stage touches no files. -/
namespace PasteRules.CommandLine.Job

variable {δ σ α β : Type}

/-- The job leaves the files as it finds them, even if it ends the run. -/
def KeepsFiles (job : Job δ α) : Prop := ∀ w, (job.exec w).2.files = w.files

namespace KeepsFiles

theorem pure (a : α) : KeepsFiles (Pure.pure a : Job δ α) := fun _ => rfl

theorem throw (stop : Stop) : KeepsFiles (throw stop : Job δ α) := fun _ => rfl

theorem out (s : String) : KeepsFiles (Job.out s : Job δ Unit) := fun _ => rfl

theorem fail (code : Nat) (line : String) : KeepsFiles (Job.fail code line : Job δ α) :=
  fun _ => rfl

/-- After the first of two jobs the files stay as they are. -/
theorem files_bind {next : α → Job δ β} (h : ∀ a, KeepsFiles (next a)) (job : Job δ α)
    (w : World δ) : ((job >>= next).exec w).2.files = (job.exec w).2.files := by
  rw [exec_bind]
  cases job.exec w with
  | mk result w' =>
    cases result with
    | ok a => exact h a w'
    | error stop => rfl

theorem bind {job : Job δ α} {next : α → Job δ β} (h : KeepsFiles job)
    (hnext : ∀ a, KeepsFiles (next a)) : KeepsFiles (job >>= next) :=
  fun w => (files_bind hnext job w).trans (h w)

theorem get_bind {next : World δ → Job δ α} (h : ∀ w, KeepsFiles (next w)) :
    KeepsFiles (get >>= next) := fun w => h w w

theorem act (s : Session σ) (action : Session.Action σ α) :
    KeepsFiles (Job.act s action : Job δ (α × Session σ)) := by
  intro w
  rw [exec_act]

theorem transformAll (s : Session σ) (texts : List String) :
    KeepsFiles (Job.transformAll s texts : Job δ Unit) := by
  induction texts generalizing s with
  | nil => exact pure ()
  | cons t rest ih => exact bind (act s _) fun result => bind (out _) fun _ => ih result.2

theorem loadSettings [FileKeeper δ] (name : String) :
    KeepsFiles (Job.loadSettings name : Job δ Json) := by
  unfold Job.loadSettings
  split
  · exact fun _ => rfl
  refine get_bind fun w => ?_
  split
  · exact pure _
  · exact fail _ _
  · dsimp only
    split
    · exact pure _
    · exact throw _
    · exact fail _ _

end KeepsFiles

def prepare [FileKeeper δ] [IdSupply σ] (o : Options) (ids : σ) : Job δ (Session σ) :=
  if o.check && !o.texts.isEmpty then
    fail usageCode "option -c (or --check) cannot be used with positional argument"
  else
    match o.settings with
    | none => throw (.fault .noFileName)
    | some name => do
      let s := Session.load (← loadSettings name) ids
      if o.migrate then saveSettings name s.settings.toJson
      return s

def serve (o : Options) (stdin : String) (s : Session σ) : Job δ Unit := do
  if o.check then
    let (good, _) ← act s Session.Action.check
    if good then return () else exit failureCode
  if o.migrate && o.texts.isEmpty then return ()
  let input := withoutFinalNewline (String.ofList (plainLines stdin.toList))
  transformAll s (if o.texts.isEmpty then [input] else o.texts)

/-- Nothing is transformed after a check. -/
theorem serve_eq (o : Options) (stdin : String) (s : Session σ) :
    (serve o stdin s : Job δ Unit) =
      if o.check then act s Session.Action.check >>= fun result =>
        if result.1 then return () else exit failureCode
      else if o.migrate && o.texts.isEmpty then return ()
      else transformAll s (if o.texts.isEmpty then
        [withoutFinalNewline (String.ofList (plainLines stdin.toList))] else o.texts) := by
  unfold serve
  cases o.check with
  | false => rfl
  | true =>
    refine funext fun w => ?_
    simp only [if_true]
    change (act s _ >>= _).exec w = (act s _ >>= _).exec w
    rw [exec_bind, exec_bind]
    cases (act s Session.Action.check : Job δ (Bool × Session σ)).exec w with
    | mk result w' =>
      cases result with
      | error stop => rfl
      | ok result =>
        obtain ⟨good, -⟩ := result
        cases good <;> rfl

theorem KeepsFiles.serve (o : Options) (stdin : String) (s : Session σ) :
    KeepsFiles (Job.serve o stdin s : Job δ Unit) := by
  rw [serve_eq]
  split
  · refine bind (act s _) fun result => ?_
    split
    · exact pure ()
    · exact throw _
  split
  · exact pure ()
  · exact transformAll s _

def reporting (o : Options) (s : Session σ) : Session σ :=
  if o.verbose then { s with debug := true } else s

theorem work_eq_stages [FileKeeper δ] [IdSupply σ] (o : Options) (stdin : String) (ids : σ) :
    (work o stdin ids : Job δ Unit) = prepare o ids >>= fun s => serve o stdin (reporting o s) := by
  refine funext fun w => ?_
  change (work o stdin ids).exec w = (prepare o ids >>= _).exec w
  unfold work prepare
  cases o.check && !o.texts.isEmpty with
  | true => rfl
  | false =>
    simp only [Bool.false_eq_true, if_false]
    cases o.settings with
    | none => rfl
    | some name =>
      simp only [pure_bind, bind_assoc]
      rw [exec_bind, exec_bind]
      cases (loadSettings name).exec w with
      | mk result w' =>
        cases result with
        | error stop => rfl
        | ok v =>
          dsimp only
          unfold serve reporting
          cases o.migrate with
          | false => rfl
          | true =>
            -- Nothing dangles in a session that has just been loaded, so saving leaves it as it is.
            simp only [if_true, bind_assoc, pure_bind]
            rw [exec_bind_of_ok (exec_act_save (Session.load_sound v ids) w')]

/-- A run has done with files when the settings are loaded and perhaps written back. -/
theorem files_work [FileKeeper δ] [IdSupply σ] (o : Options) (stdin : String) (ids : σ)
    (w : World δ) : ((work o stdin ids).exec w).2.files = ((prepare o ids).exec w).2.files := by
  rw [work_eq_stages]
  exact KeepsFiles.files_bind (fun s => .serve o stdin (reporting o s)) _ w

end PasteRules.CommandLine.Job
