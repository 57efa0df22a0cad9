import PasteRules.Proofs.CommandLine.Arguments
import PasteRules.Proofs.CommandLine.SettingsFile

/-! Runs that write migrated settings back. Such a run is not seen in what later runs print, and to
repeat it changes nothing. -/
namespace PasteRules.CommandLine

variable {δ σ : Type} [FileKeeper δ] [IdSupply σ]

namespace Job

theorem work_migrate (name stdin : String) (ids : σ) :
    (work { settings := some name, migrate := true } stdin ids : Job δ Unit) = (do
      let v ← loadSettings name
      let (settings, _) ← act (Session.load v ids) Session.Action.save
      saveSettings name settings) := by
  simp [work]

theorem work_texts (name stdin : String) (ids : σ) {texts : List String} (h : texts ≠ []) :
    (work { settings := some name, texts } stdin ids : Job δ Unit) = (do
      let v ← loadSettings name
      transformAll (Session.load v ids) texts) := by
  simp [work, h]

theorem Loads.exec_work_migrate {w : World δ} {name : String} {v : Json} (h : Loads w.files name v)
    (stdin : String) (ids : σ) :
    (work { settings := some name, migrate := true } stdin ids).exec w =
      (saveSettings name (Session.load v ids).settings.toJson).exec w := by
  rw [work_migrate, exec_bind_of_ok h.exec_loadSettings,
    exec_bind_of_ok (exec_act_save (Session.load_sound v ids) w)]

end Job

open Job

variable {name : String} {files files' : δ} {v : Json}

theorem run_migrate (hname : IsValue name) (hload : Loads files name v) (stdin : String) {ids : σ}
    (hwrite : FileKeeper.write? files name (Session.load v ids).settings.toJson.saved =
      some files') :
    (run ["-s", name, "-m"] stdin files ids).result = .ok successCode ∧
      (run ["-s", name, "-m"] stdin files ids).world.files = files' := by
  rw [run_eq, respond_of_work (requestOf_migrate hname), Loads.exec_work_migrate hload,
    exec_saveSettings_of_some hwrite]
  exact ⟨rfl, rfl⟩

/-- A run that is to migrate succeeds only if it has loaded the settings and written them. -/
theorem of_run_migrate {stdin : String} {ids : σ}
    (h : (run ["-s", name, "-m"] stdin files ids).result = .ok successCode) :
    IsValue name ∧ ∃ v files', Loads files name v ∧
      FileKeeper.write? files name (Session.load v ids).settings.toJson.saved = some files' := by
  rw [run_eq] at h
  have hstop : ∀ stop, ((respond ["-s", name, "-m"] stdin ids).exec ⟨"", "", files⟩).1 =
      .error stop → stop = .exit successCode := by
    intro stop hstop
    rw [hstop] at h
    by_contra hne
    exact resultOf_error_ne hne h
  have hname : IsValue name := by
    by_contra hno
    obtain ⟨e, hrefused⟩ := requestOf_migrate_refused hno
    have hcode := hstop (.exit usageCode) (by unfold respond; rw [hrefused]; rfl)
    cases hcode
  refine ⟨hname, ?_⟩
  rw [respond_of_work (requestOf_migrate hname)] at hstop
  rcases loads_or_stops name (⟨"", "", files⟩ : World δ) with ⟨v, hload⟩ | ⟨stop, hload, hne⟩
  · cases hwrite : FileKeeper.write? files name (Session.load v ids).settings.toJson.saved with
    | some files' => exact ⟨v, files', hload, hwrite⟩
    | none =>
      have hcode := hstop (.exit failureCode) (by
        rw [Loads.exec_work_migrate hload]
        exact exec_saveSettings_of_none hwrite)
      cases hcode
  · refine absurd (hstop stop ?_) hne
    rw [work_migrate]
    exact exec_bind_of_error hload

theorem run_texts (hname : IsValue name) (hload : Loads files name v) {texts : List String}
    (h : texts ≠ []) (stdin : String) (ids : σ) :
    run ("-s" :: name :: "--" :: texts) stdin files ids =
      ⟨resultOf ((transformAll (Session.load v ids) texts).exec ⟨"", "", files⟩).1,
        ((transformAll (Session.load v ids) texts).exec ⟨"", "", files⟩).2⟩ := by
  rw [run_eq, respond_of_work (requestOf_texts hname texts), work_texts name stdin ids h,
    exec_bind_of_ok (Loads.exec_loadSettings hload)]

/-- Sessions that differ in the supply alone transform texts to the same outcome, whatever the
files. -/
theorem run_texts_reloaded {v' : Json} {ids ids' : σ} (hname : IsValue name)
    (hload : Loads files name v) (hload' : Loads files' name v')
    (hsession : Session.load v' ids' = (Session.load v ids).resupply ids') {texts : List String}
    (h : texts ≠ []) (stdin : String) :
    let before := run ("-s" :: name :: "--" :: texts) stdin files ids
    run ("-s" :: name :: "--" :: texts) stdin files' ids' =
      ⟨before.result, { before.world with files := files' }⟩ := by
  rw [run_texts hname hload h, run_texts hname hload' h, hsession]
  have hexec := exec_transformAll_resupply ids' (Session.load v ids) texts ⟨"", "", files⟩ files'
  dsimp only at hexec ⊢
  rw [hexec]

/-- The directory after runs that migrate, each with what stands on its standard input and the
supply it draws from. -/
def migrated (name : String) (d : Directory) (runs : List (String × σ)) : Directory :=
  runs.foldl (fun d r => (run ["-s", name, "-m"] r.1 d r.2).world.files) d

theorem migrated_eq_self {d : Directory}
    (h : ∀ (stdin : String) (ids : σ), (run ["-s", name, "-m"] stdin d ids).world.files = d)
    (runs : List (String × σ)) : migrated name d runs = d := by
  induction runs with
  | nil => rfl
  | cons r rest ih =>
    unfold migrated at ih ⊢
    rw [List.foldl_cons, h]
    exact ih

/-- Where a run that migrates has succeeded, the file holds the settings that were loaded, texts are
transformed as before, and every further such run succeeds and leaves the files as the first one
did. The later runs may draw from any supply. -/
theorem write_back_stable {d : Directory} {stdin : String} {ids : σ}
    (h : (run ["-s", name, "-m"] stdin d ids).result = .ok successCode) :
    let d' := (run ["-s", name, "-m"] stdin d ids).world.files
    (∃ v, Loads d name v ∧ d'.read name = .text (Session.load v ids).settings.toJson.saved) ∧
    (∀ texts, texts ≠ [] → ∀ (input : String) (ids' : σ),
      let before := run ("-s" :: name :: "--" :: texts) input d ids
      let after := run ("-s" :: name :: "--" :: texts) input d' ids'
      after.world.stdout = before.world.stdout ∧ after.result = before.result) ∧
    ∀ (runs : List (String × σ)) (input : String) (ids' : σ),
      let again := run ["-s", name, "-m"] input (migrated name d' runs) ids'
      again.result = .ok successCode ∧ again.world.files = d' := by
  obtain ⟨hname, v, d', hload, hwrite⟩ := of_run_migrate h
  obtain ⟨-, hfiles⟩ := run_migrate hname hload stdin hwrite
  rw [hfiles]
  dsimp only
  have hloaded : Loads d' name (Session.load v ids).settings.toJson :=
    loads_written hload.name_ok hwrite
  have hsession : ∀ ids' : σ, Session.load (Session.load v ids).settings.toJson ids' =
      (Session.load v ids).resupply ids' := Session.load_load v ids
  refine ⟨⟨v, hload, (Directory.read_write hwrite).1⟩, ?_, ?_⟩
  · intro texts htexts input ids'
    rw [run_texts_reloaded hname hload hloaded (hsession ids') htexts]
    exact ⟨rfl, rfl⟩
  · have hagain : ∀ (input : String) (ids' : σ),
        (run ["-s", name, "-m"] input d' ids').result = .ok successCode ∧
          (run ["-s", name, "-m"] input d' ids').world.files = d' := by
      intro input ids'
      refine run_migrate hname hloaded input ?_
      rw [hsession]
      exact (Directory.read_write hwrite).2
    intro runs input ids'
    rw [migrated_eq_self fun input ids' => (hagain input ids').2]
    exact hagain input ids'

def legacyFile : Directory :=
  ⟨[("rules.json", .text "\x7b\"patterns\": [\"(a+)\"],\r\n\"replacers\": [\"<$1>\"]\x7d")], []⟩

theorem legacyFile_write_back :
    let first := run ["-s", "rules.json", "-m"] "" legacyFile (Tokens.mk 1)
    first.result = .ok successCode ∧ first.world.files ≠ legacyFile ∧
      (run ["-s", "rules.json", "--", "baab"] "" first.world.files (Tokens.mk 1)).world.stdout =
        "b<aa>b\n" ∧
      (run ["-s", "rules.json", "-m"] "" first.world.files (Tokens.mk 1)).world.files =
        first.world.files := by
  have hfirst : (run ["-s", "rules.json", "-m"] "" legacyFile (Tokens.mk 1)).result =
      .ok successCode := by
    decide +kernel
  have hbefore : (run ["-s", "rules.json", "--", "baab"] "" legacyFile (Tokens.mk 1)).world.stdout =
      "b<aa>b\n" := by
    decide +kernel
  obtain ⟨-, htexts, hagain⟩ := write_back_stable hfirst
  obtain ⟨hstdout, -⟩ := htexts ["baab"] (by simp) "" ⟨1⟩
  obtain ⟨-, hfiles⟩ := hagain [] "" ⟨1⟩
  exact ⟨hfirst, by decide +kernel, hstdout.trans hbefore, hfiles⟩

end PasteRules.CommandLine
