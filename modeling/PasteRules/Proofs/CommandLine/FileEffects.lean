import PasteRules.Proofs.CommandLine.Stages

/-! What a run does to files. It writes one at most, the one that holds the settings, and only if it
is to write them back; what it writes there is decided by the settings that it has loaded. -/
namespace PasteRules.CommandLine

structure Options.Migrates (o : Options) (name : String) : Prop where
  accepted : (o.check && !o.texts.isEmpty) = false
  migrate : o.migrate = true
  settings : o.settings = some name

/-- The arguments have settings written back to a file, and these can be loaded. -/
def WritesBack {δ : Type} [FileKeeper δ] (arguments : List String) (files : δ) (name : String)
    (v : Json) : Prop :=
  ∃ o, requestOf arguments = .work o ∧ o.Migrates name ∧ Job.Loads files name v

namespace Job

variable {δ σ : Type} [FileKeeper δ]

theorem files_saveSettings (name : String) (settings : Json) (w : World δ) :
    ((saveSettings name settings).exec w).2.files =
      (FileKeeper.write? w.files name settings.saved).getD w.files := by
  unfold saveSettings
  rw [exec_get_bind]
  cases FileKeeper.write? w.files name settings.saved with
  | none => rfl
  | some files => rfl

variable [IdSupply σ]

theorem files_prepare_of_migrates {o : Options} {name : String} (ho : o.Migrates name) {v : Json}
    {w : World δ} (hload : Loads w.files name v) (ids : σ) :
    ((prepare o ids).exec w).2.files =
      (FileKeeper.write? w.files name (Session.load v ids).settings.toJson.saved).getD w.files := by
  unfold prepare
  simp only [ho.accepted, Bool.false_eq_true, if_false, ho.settings, ho.migrate, if_true]
  rw [exec_bind_of_ok hload.exec_loadSettings,
    KeepsFiles.files_bind (fun _ => .pure (Session.load v ids)), files_saveSettings]

theorem files_prepare_eq_self {o : Options} {w : World δ}
    (h : ∀ name v, o.Migrates name → ¬Loads w.files name v) (ids : σ) :
    ((prepare o ids).exec w).2.files = w.files := by
  unfold prepare
  cases haccepted : o.check && !o.texts.isEmpty with
  | true => rfl
  | false =>
    simp only [Bool.false_eq_true, if_false]
    cases hsettings : o.settings with
    | none => rfl
    | some name =>
      rcases loads_or_stops name w with ⟨v, hload⟩ | ⟨stop, hstop, -⟩
      · have hmigrate : o.migrate = false := by
          rw [Bool.eq_false_iff]
          exact fun hmigrate => h name v ⟨haccepted, hmigrate, hsettings⟩ hload
        dsimp only
        rw [exec_bind_of_ok hload.exec_loadSettings, hmigrate]
        rfl
      · dsimp only
        rw [world_bind_of_error hstop]
        exact KeepsFiles.loadSettings name w

end Job

open Job

variable {δ σ : Type} [FileKeeper δ] [IdSupply σ]

/-- A run that writes settings back gives the file what the loaded settings are, if it can be
opened. -/
theorem files_run_of_writesBack {arguments : List String} {files : δ} {name : String} {v : Json}
    (h : WritesBack arguments files name v) (stdin : String) (ids : σ) :
    (run arguments stdin files ids).world.files =
      (FileKeeper.write? files name (Session.load v ids).settings.toJson.saved).getD files := by
  obtain ⟨o, hrequest, ho, hload⟩ := h
  rw [run_eq, respond_of_work hrequest]
  dsimp only
  rw [files_work, files_prepare_of_migrates ho hload]

/-- Every other run leaves the files alone. -/
theorem files_run_eq_self {arguments : List String} {files : δ}
    (h : ∀ name v, ¬WritesBack arguments files name v) (stdin : String) (ids : σ) :
    (run arguments stdin files ids).world.files = files := by
  rw [run_eq]
  unfold respond
  cases hrequest : requestOf arguments with
  | help => rfl
  | version => rfl
  | refuse e => rfl
  | work o =>
    dsimp only
    rw [files_work]
    refine files_prepare_eq_self (fun name v ho hload => ?_) ids
    exact h name v ⟨o, hrequest, ho, hload⟩

/-- The one directory differs from the other at most in a file of a name, which holds the text if it
can be opened for writing. -/
def Directory.WrittenAt (d d' : Directory) (name text : String) : Prop :=
  match (d.find name).path? with
  | none => d' = d
  | some path => d'.find name = .file path (.text text) ∧
      d'.files.filter (·.1 ≠ path) = d.files.filter (·.1 ≠ path) ∧ d'.folders = d.folders

theorem Directory.writtenAt_write? (d : Directory) (name text : String) :
    d.WrittenAt ((d.write? name text).getD d) name text := by
  unfold WrittenAt
  rw [write?_eq]
  cases hpath : (d.find name).path? with
  | none => rfl
  | some path => exact ⟨find_put hpath, others_put, folders_put⟩

theorem saved_of_load (v : Json) (ids : σ) :
    ((Session.load v ids).next .save).1 =
      .ok (.answer (.blob (Session.load v ids).settings.toJson)) := by
  rw [Session.next_save (Session.load_sound v ids)]

/-- A run leaves files as they are, unless its arguments have settings written back that can be
loaded. Then the file that they were loaded from, and no other, holds what a session of these
settings saves, whatever else the arguments ask for. This is so for any place that keeps files; in a
directory, the rest of it stays besides. -/
theorem run_file_effects (arguments : List String) (stdin : String) (ids : σ) :
    (∀ {δ : Type} [FileKeeper δ] (files : δ),
      let files' := (run arguments stdin files ids).world.files
      ((∀ name v, ¬WritesBack arguments files name v) → files' = files) ∧
      ∀ name v, WritesBack arguments files name v →
        (∃ blob, ((Session.load v ids).next .save).1 = .ok (.answer (.blob blob)) ∧
          files' = (FileKeeper.write? files name blob.saved).getD files) ∧
        ∀ (arguments' : List String) (stdin' : String), WritesBack arguments' files name v →
          (run arguments' stdin' files ids).world.files = files') ∧
    ∀ d : Directory,
      let d' := (run arguments stdin d ids).world.files
      ((∀ name v, ¬WritesBack arguments d name v) → d' = d) ∧
      ∀ name v, WritesBack arguments d name v →
        (∃ blob, ((Session.load v ids).next .save).1 = .ok (.answer (.blob blob)) ∧
          d.WrittenAt d' name blob.saved) ∧
        ∀ (arguments' : List String) (stdin' : String), WritesBack arguments' d name v →
          (run arguments' stdin' d ids).world.files = d' := by
  constructor
  · intro δ _ files
    refine ⟨fun h => files_run_eq_self h stdin ids, fun name v h => ?_⟩
    rw [files_run_of_writesBack h]
    refine ⟨⟨_, saved_of_load v ids, rfl⟩, fun arguments' stdin' h' => ?_⟩
    exact files_run_of_writesBack h' stdin' ids
  · intro d
    refine ⟨fun h => files_run_eq_self h stdin ids, fun name v h => ?_⟩
    rw [files_run_of_writesBack h]
    refine ⟨⟨_, saved_of_load v ids, d.writtenAt_write? name _⟩, fun arguments' stdin' h' => ?_⟩
    exact files_run_of_writesBack h' stdin' ids

def brokenRules : Json := .obj [("patterns", .arr [.str "("]), ("replacers", .arr [.str "-"])]

/-- The settings are written back though their check fails, as they are without the check, and not
when there are texts besides. -/
theorem brokenRules_file_effects :
    let d : Directory := ⟨[("pastetransform.json", .text brokenRules.saved),
      ("notes/image", .bytes [0xff, 0xd8])], ["drafts"]⟩
    let d' := (run ["-m", "-c"] "" d (Tokens.mk 1)).world.files
    (run ["-m", "-c"] "" d (Tokens.mk 1)).result = .ok failureCode ∧
      d' ≠ d ∧ d.WrittenAt d' "pastetransform.json"
        (Session.load brokenRules (Tokens.mk 1)).settings.toJson.saved ∧
      (run ["-x", "--migrate", "a", "b"] "c" d (Tokens.mk 1)).world.files = d' ∧
      (run ["-m", "-c", "a"] "" d (Tokens.mk 1)).world.files = d := by
  intro d d'
  have hplain : brokenRules.Plain := by
    refine .obj (by decide) fun field hfield => ?_
    simp only [List.mem_cons, List.not_mem_nil, or_false] at hfield
    rcases hfield with rfl | rfl
    · exact .arr_map .str ["("]
    · exact .arr_map .str ["-"]
  have hload : Loads d "pastetransform.json" brokenRules :=
    .text (by decide) rfl (read_plainLines_saved hplain)
  have hchecked : WritesBack ["-m", "-c"] d "pastetransform.json" brokenRules :=
    ⟨{ migrate := true, check := true }, rfl, ⟨rfl, rfl, rfl⟩, hload⟩
  have htexts : WritesBack ["-x", "--migrate", "a", "b"] d "pastetransform.json" brokenRules :=
    ⟨{ migrate := true, verbose := true, texts := ["a", "b"] }, rfl, ⟨rfl, rfl, rfl⟩, hload⟩
  have hrejected : ∀ name v, ¬WritesBack ["-m", "-c", "a"] d name v := by
    rintro name v ⟨o, hrequest, ho, -⟩
    have hoptions : o = { migrate := true, check := true, texts := ["a"] } :=
      (Request.work.inj hrequest).symm
    subst hoptions
    cases ho.accepted
  obtain ⟨⟨blob, hblob, hwritten⟩, hsame⟩ :=
    ((run_file_effects ["-m", "-c"] "" (Tokens.mk 1)).2 d).2 _ _ hchecked
  rw [Session.next_save (Session.load_sound _ _)] at hblob
  obtain rfl : (Session.load brokenRules (Tokens.mk 1)).settings.toJson = blob := by
    cases hblob
    rfl
  exact ⟨by decide +kernel, by decide +kernel, hwritten, hsame _ "c" htexts,
    ((run_file_effects ["-m", "-c", "a"] "" (Tokens.mk 1)).2 d).1 hrejected⟩

end PasteRules.CommandLine
