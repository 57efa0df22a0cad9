import PasteRules.Proofs.CommandLine.Directory
import PasteRules.Proofs.CommandLine.Job
import PasteRules.Proofs.Json.Visible

/-! Settings files: what one gives when it is loaded, and that written settings are loaded as they
were. -/
namespace PasteRules

theorem Fragment.plain_toJson (f : Fragment) : f.toJson.Plain := by
  refine .obj (by simp) fun field hfield => ?_
  simp only [List.mem_cons, List.not_mem_nil, or_false] at hfield
  rcases hfield with rfl | rfl
  · exact .str _
  · exact .str _

theorem Link.plain_toJson (l : Link) : l.toJson.Plain := by
  refine .obj (by simp) fun field hfield => ?_
  simp only [List.mem_cons, List.not_mem_nil, or_false] at hfield
  rcases hfield with rfl | rfl | rfl | rfl | rfl
  · exact .str _
  · exact .str _
  · exact .str _
  · exact .bool _
  · exact .str _

theorem Json.Plain.arr_map {α : Type} {save : α → Json} (h : ∀ x, (save x).Plain) (xs : List α) :
    (Json.arr (xs.map save)).Plain := by
  refine .arr fun v hv => ?_
  obtain ⟨x, -, rfl⟩ := List.mem_map.mp hv
  exact h x

theorem Settings.plain_toJson (settings : Settings) : settings.toJson.Plain := by
  refine .obj (show (List.map Prod.fst _).Nodup by simp [Store.fields]) fun field hfield => ?_
  simp only [Store.fields, List.cons_append, List.nil_append, List.mem_cons, List.not_mem_nil,
    or_false] at hfield
  rcases hfield with rfl | rfl | rfl | rfl | rfl | rfl
  · exact .arr_map Fragment.plain_toJson _
  · exact .arr_map Fragment.plain_toJson _
  · exact .arr_map Link.plain_toJson _
  · exact .int (by decide)
  · exact .bool _
  · exact .bool _

namespace CommandLine.Job

variable {δ : Type} [FileKeeper δ] {w : World δ} {name : String} {v : Json}

/-- What a settings file holds if it can be loaded. A missing one holds null. -/
inductive Loads (files : δ) (name : String) : Json → Prop
  | missing (hname : name.toList.contains '\x00' = false)
    (h : FileKeeper.read files name = .missing) : Loads files name .null
  | text {s : String} {v : Json} (hname : name.toList.contains '\x00' = false)
    (h : FileKeeper.read files name = .text s) (hv : Json.read (plainLines s.toList) = .ok v) :
    Loads files name v

theorem Loads.name_ok {files : δ} (h : Loads files name v) :
    name.toList.contains '\x00' = false := by
  cases h with
  | missing hname => exact hname
  | text hname => exact hname

theorem Loads.exec_loadSettings (h : Loads w.files name v) :
    (loadSettings name).exec w = (.ok v, w) := by
  unfold loadSettings
  cases h with
  | missing hname h =>
    simp only [hname, Bool.false_eq_true, if_false, exec_get_bind, h]
    rfl
  | text hname h hv =>
    simp only [hname, Bool.false_eq_true, if_false, exec_get_bind, h, hv]
    rfl

/-- A settings file that is there cannot be read, or not as JSON; the line says so. -/
inductive Spoiled (files : δ) (name : String) : String → Prop
  | unreadable (hname : name.toList.contains '\x00' = false)
    (h : FileKeeper.read files name = .unreadable) :
    Spoiled files name ("cannot read from " ++ marked name)
  | malformed {s : String} {flaw : Json.Flaw} {left : List Char}
    (hname : name.toList.contains '\x00' = false) (h : FileKeeper.read files name = .text s)
    (hread : Json.read (plainLines s.toList) = .error (.malformed flaw left)) :
    Spoiled files name ("settings file " ++ marked name ++ " is not valid JSON: " ++
      flaw.report (plainLines s.toList) left)

/-- A settings file comes upon a fault: by its name, or by a number that it holds. -/
inductive LoadFails (files : δ) (name : String) : Fault → Prop
  | nullInName (hname : name.toList.contains '\x00' = true) : LoadFails files name .nullInFileName
  | longInteger {s : String} (hname : name.toList.contains '\x00' = false)
    (h : FileKeeper.read files name = .text s)
    (hread : Json.read (plainLines s.toList) = .error .integerTooLong) :
    LoadFails files name .integerHasTooManyDigits

theorem Spoiled.exec_loadSettings {line : String} (h : Spoiled w.files name line) :
    (loadSettings name).exec w =
      (.error (.exit failureCode),
        { w with stderr := w.stderr ++ ("error: " ++ line) ++ "\n" }) := by
  unfold loadSettings
  cases h with
  | unreadable hname h =>
    simp only [hname, Bool.false_eq_true, if_false, exec_get_bind, h]
    rfl
  | malformed hname h hread =>
    simp only [hname, Bool.false_eq_true, if_false, exec_get_bind, h, hread]
    rfl

theorem LoadFails.exec_loadSettings {fault : Fault} (h : LoadFails w.files name fault) :
    (loadSettings name).exec w = (.error (.fault fault), w) := by
  unfold loadSettings
  cases h with
  | nullInName hname =>
    simp only [hname, if_true]
    rfl
  | longInteger hname h hread =>
    simp only [hname, Bool.false_eq_true, if_false, exec_get_bind, h, hread]
    rfl

theorem loading_cases (files : δ) (name : String) :
    (∃ v, Loads files name v) ∨ (∃ line, Spoiled files name line) ∨
      ∃ fault, LoadFails files name fault := by
  cases hname : name.toList.contains '\x00' with
  | true => exact .inr (.inr ⟨_, .nullInName hname⟩)
  | false =>
    cases h : FileKeeper.read files name with
    | missing => exact .inl ⟨.null, .missing hname h⟩
    | unreadable => exact .inr (.inl ⟨_, .unreadable hname h⟩)
    | text s =>
      cases hread : Json.read (plainLines s.toList) with
      | ok v => exact .inl ⟨v, .text hname h hread⟩
      | error e =>
        cases e with
        | integerTooLong => exact .inr (.inr ⟨_, .longInteger hname h hread⟩)
        | malformed flaw left => exact .inr (.inl ⟨_, .malformed hname h hread⟩)

/-- A settings file that cannot be loaded ends the run, and not with success. -/
theorem loads_or_stops (name : String) (w : World δ) :
    (∃ v, Loads w.files name v) ∨
      ∃ stop, ((loadSettings name).exec w).1 = .error stop ∧ stop ≠ .exit successCode := by
  rcases loading_cases w.files name with hload | ⟨line, hspoiled⟩ | ⟨fault, hfails⟩
  · exact .inl hload
  · exact .inr ⟨_, congrArg Prod.fst hspoiled.exec_loadSettings, by decide⟩
  · exact .inr ⟨_, congrArg Prod.fst hfails.exec_loadSettings, nofun⟩

theorem load_ok_iff : ((loadSettings name).exec w).1 = .ok v ↔ Loads w.files name v := by
  constructor
  · intro h
    rcases loading_cases w.files name with ⟨v', hload⟩ | ⟨line, hspoiled⟩ | ⟨fault, hfails⟩
    · rw [hload.exec_loadSettings] at h
      cases h
      exact hload
    · rw [hspoiled.exec_loadSettings] at h
      cases h
    · rw [hfails.exec_loadSettings] at h
      cases h
  · intro h
    rw [h.exec_loadSettings]

theorem load_fault_iff {fault : Fault} :
    ((loadSettings name).exec w).1 = .error (.fault fault) ↔ LoadFails w.files name fault := by
  constructor
  · intro h
    rcases loading_cases w.files name with ⟨v, hload⟩ | ⟨line, hspoiled⟩ | ⟨fault', hfails⟩
    · rw [hload.exec_loadSettings] at h
      cases h
    · rw [hspoiled.exec_loadSettings] at h
      cases h
    · rw [hfails.exec_loadSettings] at h
      cases h
      exact hfails
  · intro h
    rw [h.exec_loadSettings]

theorem exec_saveSettings_of_some {settings : Json} {files : δ}
    (h : FileKeeper.write? w.files name settings.saved = some files) :
    (saveSettings name settings).exec w =
      (.ok (),
        { w with files, stderr := w.stderr ++ ("success: wrote to " ++ marked name) ++ "\n" }) := by
  unfold saveSettings
  rw [exec_get_bind, h]
  rfl

theorem exec_saveSettings_of_none {settings : Json}
    (h : FileKeeper.write? w.files name settings.saved = none) :
    ((saveSettings name settings).exec w).1 = .error (.exit failureCode) := by
  unfold saveSettings
  rw [exec_get_bind, h]
  rfl

theorem read_plainLines_saved (h : v.Plain) : Json.read (plainLines v.saved.toList) = .ok v := by
  rw [plainLines_saved h]
  exact Json.read_saved h

/-- The settings that were written are loaded. -/
theorem loads_written {d d' : Directory} {settings : Settings}
    (hname : name.toList.contains '\x00' = false)
    (hwrite : d.write? name settings.toJson.saved = some d') : Loads d' name settings.toJson := by
  obtain ⟨hread, -⟩ := Directory.read_write hwrite
  exact .text hname hread (read_plainLines_saved settings.plain_toJson)

/-- Saved settings were written if saving them succeeds. -/
theorem write?_of_exec_saveSettings {settings : Json} {w' : World δ}
    (h : (saveSettings name settings).exec w = (.ok (), w')) :
    FileKeeper.write? w.files name settings.saved = some w'.files := by
  cases hwrite : FileKeeper.write? w.files name settings.saved with
  | none =>
    have hfailed := exec_saveSettings_of_none hwrite
    rw [h] at hfailed
    cases hfailed
  | some files =>
    rw [exec_saveSettings_of_some hwrite] at h
    obtain ⟨-, rfl⟩ := Prod.mk.inj h
    rfl

/-- Settings that have been loaded read as they are written, with each line end as a line feed, and
a file to which they have been saved is loaded as they are. -/
theorem saved_settings_load_back {σ : Type} [IdSupply σ] (saved : Json) (ids : σ) :
    let settings := (Settings.load saved ids).1.toJson
    Json.read (plainLines settings.saved.toList) = .ok settings ∧
    ∀ {name : String} {w w' : World Directory}, name.toList.contains '\x00' = false →
      (saveSettings name settings).exec w = (.ok (), w') →
      (loadSettings name).exec w' = (.ok settings, w') := by
  dsimp only
  constructor
  · exact read_plainLines_saved (Settings.load saved ids).1.plain_toJson
  · intro name w w' hname hsave
    have hwrite := write?_of_exec_saveSettings hsave
    exact (loads_written hname hwrite).exec_loadSettings

/-- A pattern of characters that are escaped, that end lines, or that take more than one unit. -/
def strangePattern : String := "\"\\/\x00\x08\t\x0b\x0c\x1f\x7f\r\n\r\u0085\u2028\u2029\ufeff🐈\r"

theorem strangePattern_loads_back :
    let saved := Json.obj
      [("patterns", .arr [.str strangePattern]), ("replacers", .arr [.str "\n"])]
    let settings := (Settings.load saved (Tokens.mk 1)).1
    let w : World Directory := ⟨"", "", ⟨[], []⟩⟩
    let w' := ((saveSettings "rules.json" settings.toJson).exec w).2
    settings.patterns.map Fragment.text = [strangePattern] ∧ w'.files ≠ w.files ∧
      (loadSettings "rules.json").exec w' = (.ok settings.toJson, w') := by
  intro saved settings w w'
  have hsaved : ((saveSettings "rules.json" settings.toJson).exec w).1 = .ok () := by
    decide +kernel
  obtain ⟨-, hload⟩ := saved_settings_load_back saved (Tokens.mk 1)
  refine ⟨by decide +kernel, by decide +kernel, ?_⟩
  exact hload (by decide) (Prod.ext hsaved rfl)

end CommandLine.Job
end PasteRules
