import Mathlib.Data.List.TakeWhile
import PasteRules.CommandLine.Options

/-! Arguments that name a settings file. What follows the option is taken as the file's name if it
looks like a text, and refused if it does not. -/
namespace PasteRules.CommandLine

/-- The argument can be the value of an option that stands before it. -/
def IsValue (argument : String) : Prop := argument ≠ "--" ∧ shapeOf argument = .ok .text

theorem shapeOf_settings : shapeOf "-s" = .ok (.option (some .settings) true none) := by
  rfl

theorem shapeOf_migrate : shapeOf "-m" = .ok (.option (some .migrate) true none) := by
  rfl

theorem shapes_cons {argument : String} (h : argument ≠ "--") (rest : List String) :
    shapes (argument :: rest) = do
      let shape ← shapeOf argument
      return (argument, shape) :: (← shapes rest) := by
  rw [shapes, if_neg h]

theorem shapes_separator (rest : List String) :
    shapes ("--" :: rest) = .ok (("--", .separator) :: rest.map (·, .text)) := by
  rw [shapes, if_pos rfl]

/-- An option that names the settings file takes the text behind it. -/
theorem progress_settings {name : String} (h : name ≠ "--") (p : Progress)
    (rest : List (String × Shape)) (n : Nat) :
    progress p (("-s", .option (some .settings) true none) :: (name, .text) :: rest) (n + 1) =
      progress { p with options := { p.options with settings := some name } } rest n := by
  simp [progress, takeValue, Flag.takesValue, Options.carryOut, h, bind, Except.bind, pure,
    Except.pure]

theorem shapes_migrate {name : String} (h : name ≠ "--") :
    shapes ["-s", name, "-m"] = do
      let shape ← shapeOf name
      return [("-s", .option (some .settings) true none), (name, shape),
        ("-m", .option (some .migrate) true none)] := by
  rw [shapes_cons (by decide), shapeOf_settings, shapes_cons h, shapes_cons (by decide),
    shapeOf_migrate]
  cases shapeOf name <;> rfl

theorem requestOf_migrate {name : String} (h : IsValue name) :
    requestOf ["-s", name, "-m"] = .work { settings := some name, migrate := true } := by
  unfold requestOf
  rw [shapes_migrate h.1, h.2]
  simp only [bind, Except.bind, pure, Except.pure, List.length_cons, List.length_nil,
    progress_settings h.1]
  rfl

/-- What cannot be the value of an option leaves the option without one. -/
theorem requestOf_migrate_refused {name : String} (h : ¬IsValue name) :
    ∃ e, requestOf ["-s", name, "-m"] = .refuse e := by
  by_cases hname : name = "--"
  · subst hname
    exact ⟨.missingValue .settings, rfl⟩
  unfold requestOf
  rw [shapes_migrate hname]
  cases hshape : shapeOf name with
  | error e => exact ⟨e, rfl⟩
  | ok shape =>
    cases shape with
    | text => exact absurd ⟨hname, hshape⟩ h
    | separator => exact ⟨.missingValue .settings, rfl⟩
    | option flag isShort value => exact ⟨.missingValue .settings, rfl⟩

/-- The separator and what stands behind it are one run of texts, from which the separator is
dropped. -/
theorem progress_texts (o : Options) (texts : List String) (n : Nat) :
    progress { options := o } (("--", .separator) :: texts.map (·, .text)) (n + 2) =
      .ok { options := { o with texts }, hasTexts := true } := by
  have hall : ∀ a ∈ ("--", Shape.separator) :: texts.map (·, Shape.text), isText a = true := by
    intro a ha
    rcases List.mem_cons.mp ha with rfl | ha
    · rfl
    · obtain ⟨t, -, rfl⟩ := List.mem_map.mp ha
      rfl
  have htake : ((("--", Shape.separator) :: texts.map (·, Shape.text)).takeWhile isText).map
      Prod.fst = "--" :: texts := by
    rw [List.takeWhile_eq_self_iff.mpr hall, List.map_cons, List.map_map]
    exact congrArg _ (List.map_id texts)
  have hdrop : (("--", Shape.separator) :: texts.map (·, Shape.text)).dropWhile isText = [] :=
    List.dropWhile_eq_nil_iff.mpr hall
  have hstep : progress { options := o } (("--", .separator) :: texts.map (·, .text)) (n + 2) =
      progress (({ options := o } : Progress).addTexts
        (((("--", Shape.separator) :: texts.map (·, Shape.text)).takeWhile isText).map Prod.fst))
        ((("--", Shape.separator) :: texts.map (·, Shape.text)).dropWhile isText) (n + 1) := rfl
  rw [hstep, htake, hdrop]
  simp [Progress.addTexts, progress]

/-- Everything behind the separator is a text. -/
theorem requestOf_texts {name : String} (h : IsValue name) (texts : List String) :
    requestOf ("-s" :: name :: "--" :: texts) = .work { settings := some name, texts } := by
  have hshapes : shapes ("-s" :: name :: "--" :: texts) =
      .ok (("-s", .option (some .settings) true none) :: (name, .text) :: ("--", .separator) ::
        texts.map (·, .text)) := by
    rw [shapes_cons (by decide), shapeOf_settings, shapes_cons h.1, h.2, shapes_separator]
    rfl
  unfold requestOf
  rw [hshapes]
  simp only [List.length_cons, progress_settings h.1, progress_texts]
  rfl

end PasteRules.CommandLine
