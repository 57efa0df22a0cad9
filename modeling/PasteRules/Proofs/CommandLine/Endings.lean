import PasteRules.Proofs.CommandLine.Stages
import PasteRules.Proofs.Json.LongNumber
import PasteRules.Proofs.Rules.Diagnosis
import PasteRules.Proofs.Session.Cache

/-! How runs end. A run returns a code unless it meets a fault, and it meets one in three places
only: where the settings file has no name, where it is read, and where rules are compiled. -/
namespace PasteRules.CommandLine

/-- The options have a run compile rules: to check them, or to transform a text. -/
def Options.needsRules (o : Options) : Bool := o.check || !(o.migrate && o.texts.isEmpty)

structure Options.LoadsFrom (o : Options) (name : String) : Prop where
  accepted : (o.check && !o.texts.isEmpty) = false
  settings : o.settings = some name

namespace Job

variable {δ σ α β : Type}

theorem exec_bind_of_stop {job : Job δ α} {next : α → Job δ β} {w w' : World δ} {stop : Stop}
    (h : job.exec w = (.error stop, w')) : (job >>= next).exec w = (.error stop, w') := by
  rw [exec_bind, h]

theorem bind_stops_iff {job : Job δ α} {next : α → Job δ β} {w : World δ} {stop : Stop} :
    ((job >>= next).exec w).1 = .error stop ↔
      (job.exec w).1 = .error stop ∨
        ∃ a w', job.exec w = (.ok a, w') ∧ ((next a).exec w').1 = .error stop := by
  rw [exec_bind]
  cases job.exec w with
  | mk result w' => cases result <;> simp

theorem bind_ok_iff {job : Job δ α} {next : α → Job δ β} {w : World δ} {b : β} :
    ((job >>= next).exec w).1 = .ok b ↔
      ∃ a w', job.exec w = (.ok a, w') ∧ ((next a).exec w').1 = .ok b := by
  rw [exec_bind]
  cases job.exec w with
  | mk result w' => cases result <;> simp

/-! ### Codes -/

/-- A job that ends its run does so by a fault or by a code other than that of success. -/
def StopsByFailure (job : Job δ α) : Prop :=
  ∀ w code, (job.exec w).1 = .error (.exit code) → code = failureCode ∨ code = usageCode

namespace StopsByFailure

theorem pure (a : α) : StopsByFailure (Pure.pure a : Job δ α) := fun _ _ h => by cases h

theorem modify (f : World δ → World δ) : StopsByFailure (modify f : Job δ Unit) :=
  fun _ _ h => by cases h

theorem fault (f : Fault) : StopsByFailure (throw (.fault f) : Job δ α) := fun _ _ h => by cases h

theorem exit {code : Nat} (hcode : code = failureCode ∨ code = usageCode) :
    StopsByFailure (Job.exit code : Job δ α) := by
  rintro w _ ⟨⟩
  exact hcode

theorem fail {code : Nat} (hcode : code = failureCode ∨ code = usageCode) (line : String) :
    StopsByFailure (Job.fail code line : Job δ α) := by
  rintro w _ ⟨⟩
  exact hcode

theorem bind {job : Job δ α} {next : α → Job δ β} (h : StopsByFailure job)
    (hnext : ∀ a, StopsByFailure (next a)) : StopsByFailure (job >>= next) := by
  intro w code hstop
  rcases bind_stops_iff.mp hstop with hjob | ⟨a, w', -, hrest⟩
  · exact h w code hjob
  · exact hnext a w' code hrest

theorem get_bind {next : World δ → Job δ α} (h : ∀ w, StopsByFailure (next w)) :
    StopsByFailure (get >>= next) := fun w => h w w

theorem act (s : Session σ) (action : Session.Action σ α) :
    StopsByFailure (Job.act s action : Job δ (α × Session σ)) := by
  intro w code hstop
  rw [exec_act] at hstop
  cases hrun : (s.run action).1 <;> simp [hrun, Except.map, Except.mapError] at hstop

theorem transformAll (s : Session σ) (texts : List String) :
    StopsByFailure (Job.transformAll s texts : Job δ Unit) := by
  induction texts generalizing s with
  | nil => exact pure ()
  | cons t rest ih => exact bind (act s _) fun result => bind (modify _) fun _ => ih result.2

theorem serve (o : Options) (stdin : String) (s : Session σ) :
    StopsByFailure (Job.serve o stdin s : Job δ Unit) := by
  rw [serve_eq]
  split
  · refine bind (act s _) fun result => ?_
    split
    · exact pure ()
    · exact exit (.inl rfl)
  split
  · exact pure ()
  · exact transformAll s _

variable [FileKeeper δ]

theorem loadSettings (name : String) : StopsByFailure (Job.loadSettings name : Job δ Json) := by
  unfold Job.loadSettings
  split
  · exact fault _
  refine get_bind fun w => ?_
  split
  · exact pure _
  · exact fail (.inl rfl) _
  · dsimp only
    split
    · exact pure _
    · exact fault _
    · exact fail (.inl rfl) _

theorem saveSettings (name : String) (settings : Json) :
    StopsByFailure (Job.saveSettings name settings : Job δ Unit) := by
  refine get_bind fun w => ?_
  split
  · exact bind (modify _) fun _ => modify _
  · exact fail (.inl rfl) _

theorem prepare [IdSupply σ] (o : Options) (ids : σ) :
    StopsByFailure (Job.prepare o ids : Job δ (Session σ)) := by
  unfold Job.prepare
  split
  · exact fail (.inr rfl) _
  split
  · exact fault _
  · refine bind (loadSettings _) fun v => ?_
    dsimp only
    split
    · exact bind (saveSettings _ _) fun _ => pure _
    · exact pure _

theorem respond [IdSupply σ] (arguments : List String) (stdin : String) (ids : σ) :
    StopsByFailure (Job.respond arguments stdin ids : Job δ Unit) := by
  unfold Job.respond
  split
  · exact modify _
  · exact modify _
  · exact bind (modify _) fun _ => exit (.inr rfl)
  · rw [work_eq_stages]
    exact bind (prepare _ ids) fun s => serve _ stdin (reporting _ s)

end StopsByFailure

/-! ### Faults -/

/-- Texts are transformed unless the rules do not compile, which the first text shows. -/
theorem result_transformAll_eq {s : Session σ} (h : s.Coherent) (texts : List String)
    (w : World δ) :
    ((transformAll s texts).exec w).1 =
      if texts = [] then .ok () else (s.store.rules.map fun _ => ()).mapError Stop.fault := by
  induction texts generalizing s w with
  | nil => rfl
  | cons t rest ih =>
    obtain ⟨hresult, compiled, hafter, hcoherent⟩ := h.run_transform (some t)
    unfold transformAll
    rw [exec_bind, exec_act, hresult, hafter]
    cases hrules : s.store.rules with
    | error fault => rfl
    | ok rules =>
      -- The session that the first text leaves has the same store, and compiles the same rules.
      refine (ih hcoherent _).trans ?_
      simp [hrules, Except.map, Except.mapError]

theorem serve_fault_iff {s : Session σ} (h : s.Coherent) {o : Options} {stdin : String}
    {w : World δ} {fault : Fault} :
    ((serve o stdin s).exec w).1 = .error (.fault fault) ↔
      o.needsRules = true ∧ s.store.rules = .error fault := by
  rw [serve_eq]
  unfold Options.needsRules
  cases o.check with
  | true =>
    obtain ⟨hcheck, -⟩ := Session.Action.exec_check (⟨s, ""⟩ : Session.Work σ)
    have hrun : (s.run Session.Action.check).1 = (Session.Action.check.exec ⟨s, ""⟩).1 := rfl
    rw [if_pos rfl, exec_bind, exec_act, hrun, hcheck, ← Store.diagnose_eq_error_iff]
    cases s.store.diagnose with
    | error fault' => simp [Except.map, Except.mapError]
    | ok ds =>
      simp only [Except.map, Except.mapError]
      split <;> exact ⟨nofun, fun h => nomatch h.2⟩
  | false =>
    cases hquit : o.migrate && o.texts.isEmpty with
    | true => simp [exec]
    | false =>
      have htexts : (if o.texts.isEmpty then
          [withoutFinalNewline (String.ofList (plainLines stdin.toList))] else o.texts) ≠ [] := by
        cases o.texts <;> simp
      simp only [Bool.false_eq_true, if_false, result_transformAll_eq h, if_neg htexts]
      cases s.store.rules <;> simp [Except.map, Except.mapError]

theorem reporting_store (o : Options) (s : Session σ) : (reporting o s).store = s.store := by
  unfold reporting
  split <;> rfl

section

variable [FileKeeper δ]

def writeBack (o : Options) (name : String) (s : Session σ) : Job δ (Session σ) := do
  if o.migrate then saveSettings name s.settings.toJson
  return s

theorem result_writeBack (o : Options) (name : String) (s : Session σ) (w : World δ) :
    ((writeBack o name s).exec w).1 =
      if o.migrate && (FileKeeper.write? w.files name s.settings.toJson.saved).isNone then
        .error (.exit failureCode)
      else .ok s := by
  unfold writeBack
  cases o.migrate with
  | false => rfl
  | true =>
    rw [if_pos rfl]
    cases hwrite : FileKeeper.write? w.files name s.settings.toJson.saved with
    | none => exact exec_bind_of_error (exec_saveSettings_of_none hwrite)
    | some files =>
      rw [exec_bind_of_ok (exec_saveSettings_of_some hwrite)]
      rfl

variable [IdSupply σ] {o : Options} {ids : σ} {w : World δ} {s : Session σ} {fault : Fault}

/-- Settings are loaded to a session, and written back if the options ask for it. -/
inductive Prepares (o : Options) (files : δ) (ids : σ) : Session σ → Prop
  | mk {name : String} {v : Json} (ho : o.LoadsFrom name) (hload : Loads files name v)
    (hwritten : o.migrate = true →
      FileKeeper.write? files name (Session.load v ids).settings.toJson.saved ≠ none) :
    Prepares o files ids (Session.load v ids)

theorem prepare_eq {name : String} (ho : o.LoadsFrom name) (ids : σ) :
    (prepare o ids : Job δ (Session σ)) =
      loadSettings name >>= fun v => writeBack o name (Session.load v ids) := by
  unfold prepare
  rw [ho.accepted, ho.settings]
  rfl

theorem prepare_ok_iff : ((prepare o ids).exec w).1 = .ok s ↔ Prepares o w.files ids s := by
  constructor
  · intro h
    cases haccepted : o.check && !o.texts.isEmpty with
    | true =>
      unfold prepare at h
      rw [if_pos haccepted] at h
      cases h
    | false =>
      cases hsettings : o.settings with
      | none =>
        unfold prepare at h
        rw [haccepted, hsettings] at h
        cases h
      | some name =>
        rw [prepare_eq ⟨haccepted, hsettings⟩, bind_ok_iff] at h
        obtain ⟨v, w', hexec, hback⟩ := h
        have hload : Loads w.files name v := load_ok_iff.mp (congrArg Prod.fst hexec)
        rw [hload.exec_loadSettings] at hexec
        obtain ⟨-, rfl⟩ := Prod.mk.inj hexec
        rw [result_writeBack] at hback
        split at hback
        · cases hback
        · next hwritten =>
          obtain rfl := Except.ok.inj hback
          exact .mk ⟨haccepted, hsettings⟩ hload (by simpa using hwritten)
  · rintro ⟨ho, hload, hwritten⟩
    rw [prepare_eq ho, exec_bind_of_ok hload.exec_loadSettings, result_writeBack, if_neg]
    simpa using hwritten

theorem prepare_fault_iff :
    ((prepare o ids).exec w).1 = .error (.fault fault) ↔
      ((o.check && !o.texts.isEmpty) = false ∧ o.settings = none ∧ fault = .noFileName) ∨
        ∃ name, o.LoadsFrom name ∧ LoadFails w.files name fault := by
  cases haccepted : o.check && !o.texts.isEmpty with
  | true =>
    have hno : ∀ name, ¬o.LoadsFrom name := fun name ho => by simp [ho.accepted] at haccepted
    unfold prepare
    rw [if_pos haccepted]
    simp only [Bool.true_eq_false, false_and, hno, exists_false, or_self, iff_false]
    nofun
  | false =>
    cases hsettings : o.settings with
    | none =>
      have hno : ∀ name, ¬o.LoadsFrom name := fun name ho => by simp [ho.settings] at hsettings
      unfold prepare
      rw [haccepted, hsettings]
      simp only [hno, true_and, false_and, exists_false, or_false]
      exact ⟨fun h => by cases h; rfl, fun h => by rw [h]; rfl⟩
    | some name =>
      rw [prepare_eq ⟨haccepted, hsettings⟩, bind_stops_iff, load_fault_iff]
      constructor
      · rintro (hfails | ⟨v, w', -, hback⟩)
        · exact .inr ⟨name, ⟨haccepted, hsettings⟩, hfails⟩
        · rw [result_writeBack] at hback
          split at hback <;> cases hback
      · rintro (⟨-, hnone, -⟩ | ⟨name', ho, hfails⟩)
        · cases hnone
        · obtain rfl : name = name' := Option.some.inj (hsettings.symm.trans ho.settings)
          exact .inl hfails

/-- A session that has just been prepared compiles its rules itself, whether or not it reports. -/
theorem Prepares.coherent (h : Prepares o w.files ids s) : (reporting o s).Coherent := by
  obtain ⟨-, -, -⟩ := h
  unfold reporting
  split <;> exact .of_none rfl

end

end Job

open Job

variable {δ σ : Type} [FileKeeper δ] [IdSupply σ] {arguments : List String} {files : δ} {ids : σ}

/-- What a run fails with: its settings file has no name or comes upon a fault, or rules are to be
compiled and one is not. -/
inductive Fails (arguments : List String) (files : δ) (ids : σ) : Fault → Prop
  | unnamed {o : Options} (hrequest : requestOf arguments = .work o)
    (haccepted : (o.check && !o.texts.isEmpty) = false) (hsettings : o.settings = none) :
    Fails arguments files ids .noFileName
  | load {o : Options} {name : String} {fault : Fault} (hrequest : requestOf arguments = .work o)
    (ho : o.LoadsFrom name) (h : LoadFails files name fault) : Fails arguments files ids fault
  | compile {o : Options} {s : Session σ} {fault : Fault}
    (hrequest : requestOf arguments = .work o) (hs : Prepares o files ids s)
    (hneeds : o.needsRules = true) (h : s.store.FailsWith fault) :
    Fails arguments files ids fault

theorem respond_fault_iff (stdin : String) {w : World δ} {fault : Fault} :
    ((respond arguments stdin ids).exec w).1 = .error (.fault fault) ↔
      Fails arguments w.files ids fault := by
  constructor
  · intro h
    unfold respond at h
    cases hrequest : requestOf arguments with
    | help =>
      rw [hrequest] at h
      cases h
    | version =>
      rw [hrequest] at h
      cases h
    | refuse e =>
      rw [hrequest] at h
      cases h
    | work o =>
      rw [hrequest] at h
      dsimp only at h
      rw [work_eq_stages, bind_stops_iff, prepare_fault_iff] at h
      rcases h with (⟨haccepted, hsettings, rfl⟩ | ⟨name, ho, hfails⟩) | ⟨s, w', hexec, hserve⟩
      · exact .unnamed hrequest haccepted hsettings
      · exact .load hrequest ho hfails
      · have hs : Prepares o w.files ids s := prepare_ok_iff.mp (congrArg Prod.fst hexec)
        obtain ⟨hneeds, hrules⟩ := (serve_fault_iff hs.coherent).mp hserve
        rw [reporting_store] at hrules
        exact .compile hrequest hs hneeds (Store.rules_eq_error_iff.mp hrules)
  · intro h
    cases h with
    | unnamed hrequest haccepted hsettings =>
      rw [respond_of_work hrequest, work_eq_stages]
      exact exec_bind_of_error (prepare_fault_iff.mpr (.inl ⟨haccepted, hsettings, rfl⟩))
    | load hrequest ho hfails =>
      rw [respond_of_work hrequest, work_eq_stages]
      exact exec_bind_of_error (prepare_fault_iff.mpr (.inr ⟨_, ho, hfails⟩))
    | compile hrequest hs hneeds hfails =>
      rw [respond_of_work hrequest, work_eq_stages,
        exec_bind_of_ok (Prod.ext (prepare_ok_iff.mpr hs) rfl), serve_fault_iff hs.coherent,
        reporting_store]
      exact ⟨hneeds, Store.rules_eq_error_iff.mpr hfails⟩

def runFaults : List Fault :=
  [.noFileName, .nullInFileName, .integerHasTooManyDigits, .alphabetsContradict,
    .countHasTooManyDigits]

theorem Fails.mem_runFaults {fault : Fault} (h : Fails arguments files ids fault) :
    fault ∈ runFaults := by
  cases h with
  | unnamed => decide
  | load hrequest ho hfails => cases hfails <;> decide
  | compile hrequest hs hneeds hfails =>
    obtain ⟨-, -, -, hc⟩ := hfails
    rcases compilePattern_eq_error hc with rfl | rfl <;> decide

/-- An integer of the settings file is too long only if too many digits stand in a row there. -/
theorem Fails.hasLongNumber (h : Fails arguments files ids .integerHasTooManyDigits) :
    ∃ o name s, requestOf arguments = .work o ∧ o.LoadsFrom name ∧
      FileKeeper.read files name = .text s ∧ Json.HasLongNumber (plainLines s.toList) := by
  cases h with
  | load hrequest ho hfails =>
    cases hfails with
    | longInteger hname htext hread =>
      exact ⟨_, _, _, hrequest, ho, htext, Json.hasLongNumber_of_read hread⟩
  | compile hrequest hs hneeds hfails =>
    obtain ⟨-, -, -, hc⟩ := hfails
    rcases compilePattern_eq_error hc with hfault | hfault <;> cases hfault

theorem result_run_iff {stdin : String} {fault : Fault} :
    (run arguments stdin files ids).result = .error fault ↔ Fails arguments files ids fault := by
  rw [← respond_fault_iff stdin (w := ⟨"", "", files⟩), run_eq]
  dsimp only
  cases ((respond arguments stdin ids).exec ⟨"", "", files⟩).1 with
  | ok a => exact ⟨nofun, nofun⟩
  | error stop => cases stop <;> simp [resultOf]

theorem code_of_run {stdin : String} {code : Nat}
    (h : (run arguments stdin files ids).result = .ok code) :
    code ∈ [successCode, failureCode, usageCode] := by
  rw [run_eq] at h
  cases hend : ((respond arguments stdin ids).exec ⟨"", "", files⟩).1 with
  | ok a =>
    rw [hend] at h
    obtain rfl : successCode = code := Except.ok.inj h
    simp
  | error stop =>
    rw [hend] at h
    cases stop with
    | fault f => cases h
    | exit code' =>
      obtain rfl : code' = code := Except.ok.inj h
      rcases StopsByFailure.respond arguments stdin ids _ _ hend with rfl | rfl <;> simp

/-- All that is printed of a settings file that cannot be read, or not as JSON, is the error line.
-/
theorem run_of_spoiled {o : Options} {name line : String}
    (hrequest : requestOf arguments = .work o) (ho : o.LoadsFrom name)
    (h : Spoiled files name line) (stdin : String) (ids : σ) :
    run arguments stdin files ids =
      ⟨.ok failureCode, ⟨"", "error: " ++ line ++ "\n", files⟩⟩ := by
  have hload := Spoiled.exec_loadSettings (w := ⟨"", "", files⟩) h
  rw [run_eq, respond_of_work hrequest, work_eq_stages, prepare_eq ho,
    exec_bind_of_stop (exec_bind_of_stop hload)]
  simp only [String.empty_append]
  rfl

/-- A run returns one of three codes unless it meets a fault. It meets one exactly if its settings
file has no name or comes upon a fault itself, or if rules are to be compiled and a pattern that is
in use makes that fail; so it never does for its standard input or for the shape of the settings,
nor for a number without too many digits in a row. A settings file that is there and cannot be read,
or not as JSON, gives the code of failure and the error line, and nothing else. -/
theorem run_endings (arguments : List String) (stdin : String) (files : δ) (ids : σ) :
    (match (run arguments stdin files ids).result with
      | .ok code => code ∈ [successCode, failureCode, usageCode]
      | .error fault => fault ∈ runFaults) ∧
    (∀ fault, (run arguments stdin files ids).result = .error fault ↔
      Fails arguments files ids fault) ∧
    ((run arguments stdin files ids).result = .error .integerHasTooManyDigits →
      ∃ o name s, requestOf arguments = .work o ∧ o.LoadsFrom name ∧
        FileKeeper.read files name = .text s ∧ Json.HasLongNumber (plainLines s.toList)) ∧
    ∀ o name line, requestOf arguments = .work o → o.LoadsFrom name → Spoiled files name line →
      run arguments stdin files ids =
        ⟨.ok failureCode, ⟨"", "error: " ++ line ++ "\n", files⟩⟩ := by
  refine ⟨?_, fun fault => result_run_iff, fun hlong => (result_run_iff.mp hlong).hasLongNumber,
    fun o name line hrequest ho h => run_of_spoiled hrequest ho h stdin ids⟩
  cases hresult : (run arguments stdin files ids).result with
  | ok code => exact code_of_run hresult
  | error fault => exact (result_run_iff.mp hresult).mem_runFaults

def withSettings (content : Content) : Directory := ⟨[("pastetransform.json", content)], []⟩

def contradictoryRules : Json :=
  .obj [("patterns", .arr [.str "(?a)(?u)b"]), ("replacers", .arr [.str "X"])]

/-- Settings files that are no text, no JSON, or have a pattern that cannot be compiled. -/
theorem withSettings_endings :
    let noText := withSettings (.bytes [0xff])
    let noJson := withSettings (.text "\x7b")
    let rules := withSettings (.text contradictoryRules.saved)
    run ["-m", "a"] "" noText (Tokens.mk 1) = ⟨.ok failureCode,
      ⟨"", "error: cannot read from \x60pastetransform.json\x60\n", noText⟩⟩ ∧
    run ["-c"] "" noJson (Tokens.mk 1) = ⟨.ok failureCode,
      ⟨"", "error: settings file \x60pastetransform.json\x60 is not valid JSON: " ++
        "Expecting property name enclosed in double quotes: line 1 column 2 (char 1)\n",
        noJson⟩⟩ ∧
    Fails ["a"] rules (Tokens.mk 1) .alphabetsContradict ∧
    ¬Fails ["-m"] rules (Tokens.mk 1) .alphabetsContradict := by
  intro noText noJson rules
  obtain ⟨-, -, -, hnoText⟩ := run_endings ["-m", "a"] "" noText (Tokens.mk 1)
  obtain ⟨-, -, -, hnoJson⟩ := run_endings ["-c"] "" noJson (Tokens.mk 1)
  obtain ⟨-, hused, -⟩ := run_endings ["a"] "" rules (Tokens.mk 1)
  obtain ⟨-, hunused, -⟩ := run_endings ["-m"] "" rules (Tokens.mk 1)
  refine ⟨?_, ?_, (hused _).mp (by decide +kernel), fun h => ?_⟩
  · exact hnoText { migrate := true, texts := ["a"] } _ _ rfl ⟨rfl, rfl⟩
      (.unreadable (by decide) rfl)
  · have hread : Json.read (plainLines ['\x7b']) = .error (.malformed .expectedName []) := rfl
    have hspoiled : Spoiled noJson "pastetransform.json" _ := .malformed (by decide) rfl hread
    exact hnoJson { check := true } _ _ rfl ⟨rfl, rfl⟩ hspoiled
  · have hcode : (run ["-m"] "" rules (Tokens.mk 1)).result = .ok successCode := by
      decide +kernel
    rw [(hunused _).mpr h] at hcode
    cases hcode

/-- A settings file that is one integer of the given number of digits. -/
def repeatedOnes (n : Nat) : Directory :=
  withSettings (.text (String.ofList (List.replicate n '1')))

theorem run_repeatedOnes {n : Nat} (h : Json.digitLimit < n) (ids : σ) :
    (run ["a"] "" (repeatedOnes n) ids).result = .error .integerHasTooManyDigits := by
  have hread : Json.read (plainLines (String.ofList (List.replicate n '1')).toList) =
      .error .integerTooLong := by
    rw [String.toList_ofList, plainLines_eq_self fun hmem => by cases List.eq_of_mem_replicate hmem]
    obtain ⟨m, rfl⟩ : ∃ m, n = m + 1 := Nat.exists_eq_add_one.mpr (Nat.zero_lt_of_lt h)
    have hdigits : ∀ d ∈ List.replicate (m + 1) '1', d.isDigit = true := by
      intro d hd
      rw [List.eq_of_mem_replicate hd]
      decide
    exact Json.read_of_long hdigits (by decide) (by simpa using h)
  have htext : FileKeeper.read (repeatedOnes n) "pastetransform.json" =
      .text (String.ofList (List.replicate n '1')) := rfl
  exact result_run_iff.mpr (.load (o := { texts := ["a"] }) rfl ⟨rfl, rfl⟩
    (.longInteger (by decide) htext hread))

/-- Runs end in a fault where rules are compiled, and where the settings are loaded, though the file
is there and cannot be read as JSON. -/
theorem settings_end_in_fault :
    (run ["a"] "" (withSettings (.text contradictoryRules.saved)) (Tokens.mk 1)).result =
      .error .alphabetsContradict ∧
    (run ["a"] "" (repeatedOnes 4301) (Tokens.mk 1)).result = .error .integerHasTooManyDigits :=
  ⟨by decide +kernel, run_repeatedOnes (by decide) (Tokens.mk 1)⟩

end PasteRules.CommandLine
