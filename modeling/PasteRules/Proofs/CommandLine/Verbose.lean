import PasteRules.Proofs.CommandLine.Arguments
import PasteRules.Proofs.CommandLine.Stages
import PasteRules.Proofs.Session.Debug

/-! Runs that report what they do. They are asked to do the same work as runs that do not, so they
end in the same way and leave the same files. -/
namespace PasteRules.CommandLine

/-- The options of a run that reports what it does. -/
def Options.loud (o : Options) : Options := { o with verbose := true }

def Progress.loud (p : Progress) : Progress := { p with options := p.options.loud }

def Request.loud : Request → Request
  | .work o => .work o.loud
  | request => request

/-- What is read if the run reports: the reading, and the request that may end it, both report. -/
def reported {α : Type} (loud : α → α) (result : Except Request α) : Except Request α :=
  (result.map loud).mapError Request.loud

theorem Options.carryOut_loud (o : Options) (found : Flag × String) :
    o.loud.carryOut found = reported loud (o.carryOut found) := by
  obtain ⟨flag, value⟩ := found
  cases flag <;> rfl

theorem Options.foldlM_carryOut_loud (found : List (Flag × String)) (o : Options) :
    found.foldlM carryOut o.loud = reported loud (found.foldlM carryOut o) := by
  induction found generalizing o with
  | nil => rfl
  | cons first rest ih =>
    rw [List.foldlM_cons, List.foldlM_cons, carryOut_loud]
    cases o.carryOut first with
    | error request => rfl
    | ok o' => exact ih o'

theorem Progress.addTexts_loud (p : Progress) (texts : List String) :
    p.loud.addTexts texts = (p.addTexts texts).loud := by
  obtain ⟨options, hasTexts, extras⟩ := p
  cases hasTexts <;> rfl

/-- Whether a run reports has no part in how its arguments are read. -/
theorem progress_loud (p : Progress) (args : List (String × Shape)) (n : Nat) :
    progress p.loud args n = reported Progress.loud (progress p args n) := by
  induction n generalizing p args with
  | zero => rfl
  | succ n ih =>
    cases args with
    | nil =>
      obtain ⟨options, hasTexts, extras⟩ := p
      cases hasTexts <;> rfl
    | cons arg rest =>
      obtain ⟨a, shape⟩ := arg
      have htexts : ∀ texts args', progress (p.loud.addTexts texts) args' n =
          reported Progress.loud (progress (p.addTexts texts) args' n) := by
        intro texts args'
        rw [Progress.addTexts_loud, ih]
      -- While arguments are read the options are set and never looked at.
      have hfound : ∀ (found : List (Flag × String)) (args' : List (String × Shape)),
          (do let options ← found.foldlM Options.carryOut p.loud.options
              progress { p.loud with options } args' n) =
            reported Progress.loud (do
              let options ← found.foldlM Options.carryOut p.options
              progress { p with options } args' n) := by
        intro found args'
        change (found.foldlM Options.carryOut p.options.loud >>= _) = _
        rw [Options.foldlM_carryOut_loud]
        cases found.foldlM Options.carryOut p.options with
        | error request => rfl
        | ok options => exact ih { p with options } args'
      cases shape with
      | text => exact htexts _ _
      | separator => exact htexts _ _
      | option flag isShort value =>
        cases flag with
        | none => exact ih { p with extras := p.extras ++ [a] } rest
        | some flag =>
          cases value with
          | none =>
            unfold progress
            dsimp only
            cases takeValue flag rest with
            | error e => rfl
            | ok taken => exact hfound taken.1 taken.2
          | some value =>
            unfold progress
            dsimp only
            cases takeJoined flag isShort rest value with
            | error e => rfl
            | ok taken => exact hfound taken.1 taken.2

theorem requestOf_verbose (arguments : List String) :
    requestOf ("-x" :: arguments) = (requestOf arguments).loud := by
  have hshape : shapeOf "-x" = .ok (.option (some .verbose) true none) := rfl
  unfold requestOf
  rw [shapes_cons (by decide), hshape]
  cases shapes arguments with
  | error e => rfl
  | ok args =>
    -- The option takes one step of the bound and leaves the rest as it would be without it.
    have hprogress : progress {} (("-x", .option (some .verbose) true none) :: args)
        (args.length + 1 + 1) = reported Progress.loud (progress {} args (args.length + 1)) :=
      progress_loud {} args (args.length + 1)
    simp only [bind, Except.bind, pure, Except.pure, List.length_cons, hprogress]
    cases progress {} args (args.length + 1) with
    | error request => rfl
    | ok p =>
      obtain ⟨options, hasTexts, extras⟩ := p
      cases extras <;> rfl

namespace Job

open Session (Peers)

variable {δ σ α β : Type}

/-- What comes after an action that two sessions answer alike ends alike if it does so for each of
the sessions that the action leaves. -/
theorem result_act_bind {s t : Session σ} {action : Session.Action σ α}
    (h : (s.run action).1 = (t.run action).1) {next : α × Session σ → Job δ β}
    (hnext : ∀ a v w, ((next (a, (s.run action).2.2)).exec v).1 =
      ((next (a, (t.run action).2.2)).exec w).1) (v w : World δ) :
    ((act s action >>= next).exec v).1 = ((act t action >>= next).exec w).1 := by
  rw [exec_bind, exec_bind, exec_act, exec_act, h]
  cases (t.run action).1 with
  | error f => dsimp only [Except.map, Except.mapError]
  | ok a => exact hnext a _ _

theorem result_transformAll {s t : Session σ} [IdSupply σ] (h : Peers s t) (texts : List String)
    (v w : World δ) :
    ((transformAll s texts).exec v).1 = ((transformAll t texts).exec w).1 := by
  induction texts generalizing s t v w with
  | nil => rfl
  | cons text rest ih =>
    obtain ⟨hanswer, hpeers⟩ :=
      Session.Action.peers_congruent.transform (some text) ⟨s, ""⟩ ⟨t, ""⟩ h
    refine result_act_bind hanswer (fun result v w => ?_) v w
    exact ih hpeers _ _

theorem result_serve {s t : Session σ} [IdSupply σ] (h : Peers s t) (o : Options) (stdin : String)
    (w : World δ) : ((serve o stdin s).exec w).1 = ((serve o stdin t).exec w).1 := by
  rw [serve_eq, serve_eq]
  split
  · have hanswer : (s.run Session.Action.check).1 = (t.run Session.Action.check).1 := by
      rw [Session.run_eq, Session.run_eq]
      exact (Session.Action.peers_congruent.check ⟨s, ""⟩ ⟨t, ""⟩ h).1
    refine result_act_bind hanswer (fun good v w => ?_) w w
    cases good <;> rfl
  split
  · rfl
  · exact result_transformAll h _ w w

theorem peers_reporting (o o' : Options) (s : Session σ) :
    Peers (reporting o s) (reporting o' s) := by
  unfold reporting
  split <;> split <;> exact ⟨rfl, rfl, rfl⟩

/-- Settings are written back before a run begins to report, so nothing that is written shows that
it does. -/
theorem work_loud [FileKeeper δ] [IdSupply σ] (o : Options) (stdin : String) (ids : σ)
    (w : World δ) :
    ((work o.loud stdin ids).exec w).1 = ((work o stdin ids).exec w).1 ∧
      ((work o.loud stdin ids).exec w).2.files = ((work o stdin ids).exec w).2.files := by
  have hprepare : (prepare o.loud ids : Job δ (Session σ)) = prepare o ids := rfl
  have hserve : ∀ s : Session σ, (serve o.loud stdin s : Job δ Unit) = serve o stdin s :=
    fun _ => rfl
  constructor
  · rw [work_eq_stages, work_eq_stages, hprepare, exec_bind, exec_bind]
    cases (prepare o ids).exec w with
    | mk result w' =>
      cases result with
      | error stop => rfl
      | ok s =>
        dsimp only
        rw [hserve]
        exact result_serve (peers_reporting o.loud o s) o stdin w'
  · rw [files_work, files_work, hprepare]

end Job

theorem run_verbose {δ σ : Type} [FileKeeper δ] [IdSupply σ] (arguments : List String)
    (stdin : String) (files : δ) (ids : σ) :
    (run ("-x" :: arguments) stdin files ids).result = (run arguments stdin files ids).result ∧
      (run ("-x" :: arguments) stdin files ids).world.files =
        (run arguments stdin files ids).world.files := by
  rw [run_eq, run_eq]
  unfold Job.respond
  rw [requestOf_verbose]
  cases requestOf arguments with
  | help => exact ⟨rfl, rfl⟩
  | version => exact ⟨rfl, rfl⟩
  | refuse e => exact ⟨rfl, rfl⟩
  | work o =>
    obtain ⟨hresult, hfiles⟩ := Job.work_loud o stdin ids (⟨"", "", files⟩ : World δ)
    exact ⟨congrArg resultOf hresult, hfiles⟩

/-- Sessions that differ in debug mode answer the same steps alike and go through the same stores,
whatever debug mode is set to on the way, and a session that is never in debug mode prints nothing
but checks. A run that reports ends as it does if it does not, and leaves the same files. -/
theorem debug_mode_only_prints {σ : Type} [IdSupply σ] {s t : Session σ} (h : Session.Peers s t)
    {steps steps' : List Session.Step}
    (hsteps : steps.map Session.Step.undebugged = steps'.map Session.Step.undebugged) :
    s.observations steps = t.observations steps' ∧
    (s.debug = false → .setDebug true ∉ steps → ∀ step, step ≠ .check →
      ((s.after steps).run (Session.Action.step step)).2.1 = "") ∧
    ∀ {δ : Type} [FileKeeper δ] (arguments : List String) (stdin : String) (files : δ) (ids : σ),
      let quiet := run arguments stdin files ids
      let loud := run ("-x" :: arguments) stdin files ids
      loud.result = quiet.result ∧ loud.world.files = quiet.world.files := by
  refine ⟨h.observations hsteps, ?_, fun arguments stdin files ids => ?_⟩
  · intro hquiet hnever step hcheck
    exact Session.run_quiet (Session.after_debug hquiet hnever) hcheck
  · exact run_verbose arguments stdin files ids

def tagRules : Json :=
  .obj [("patterns", .arr [.str "(a+)"]), ("replacers", .arr [.str "<$1>"])]

theorem tagRules_debug_unseen :
    let s : Session Tokens := Session.load tagRules ⟨1⟩
    let transformation : Session.Step := .transform (some "baab")
    let steps := fun debug => [Session.Step.setDebug debug, transformation, .save]
    let files : Directory := ⟨[("rules.json", .text tagRules.saved)], []⟩
    let quiet := run ["-s", "rules.json", "-m", "baab"] "" files (Tokens.mk 1)
    let loud := run ["-x", "-s", "rules.json", "-m", "baab"] "" files (Tokens.mk 1)
    s.observations (steps false) = { s with debug := true }.observations (steps true) ∧
      ((s.after (steps false)).run (Session.Action.step transformation)).2.1 = "" ∧
      loud.world.files = quiet.world.files ∧ quiet.world.files ≠ files ∧
      loud.world.stdout ≠ quiet.world.stdout := by
  intro s transformation steps files quiet loud
  have hpeers : Session.Peers s { s with debug := true } := ⟨rfl, rfl, rfl⟩
  have hsteps : (steps false).map Session.Step.undebugged =
      (steps true).map Session.Step.undebugged := rfl
  obtain ⟨hsame, hquiet, hrun⟩ := debug_mode_only_prints hpeers hsteps
  obtain ⟨-, hfiles⟩ := hrun ["-s", "rules.json", "-m", "baab"] "" files ⟨1⟩
  have hdebug : s.debug = false := by
    decide +kernel
  have hnever : .setDebug true ∉ steps false := by
    simp [steps, transformation]
  have hprinted := hquiet hdebug hnever transformation (by simp [transformation])
  exact ⟨hsame, hprinted, hfiles, by decide +kernel, by decide +kernel⟩

end PasteRules.CommandLine
