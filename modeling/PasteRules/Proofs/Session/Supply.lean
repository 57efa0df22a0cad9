import PasteRules.Proofs.Session.Cache
import PasteRules.Proofs.Session.Reload

/-! Sessions that differ in their supply of identifiers alone. To transform a text none is drawn, so
what is answered and what is printed do not tell such sessions apart. -/
namespace PasteRules.Session

variable {σ α β : Type}

def resupply (ids : σ) (s : Session σ) : Session σ := { s with store := { s.store with ids } }

def Work.resupply (ids : σ) (w : Work σ) : Work σ := { w with session := w.session.resupply ids }

theorem rules_resupply (ids : σ) (s : Session σ) : (s.resupply ids).store.rules = s.store.rules :=
  Store.rules_congr rfl rfl rfl

namespace Action

/-- With a supply exchanged beforehand the second action answers, prints and leaves what the first
does and leaves with the supply exchanged afterwards. -/
def Resupplied (ids : σ) (act act' : Action σ α) : Prop :=
  ∀ w : Work σ, act'.exec (w.resupply ids) = ((act.exec w).1, (act.exec w).2.resupply ids)

namespace Resupplied

variable {ids : σ}

theorem pure (a : α) : Resupplied ids (Pure.pure a) (Pure.pure a) := fun _ => rfl

theorem ofExcept (result : Except Fault α) :
    Resupplied ids (Action.ofExcept result) (Action.ofExcept result) := by
  intro w
  rw [exec_ofExcept, exec_ofExcept]

theorem print (line : String) : Resupplied ids (Action.print line) (Action.print line) :=
  fun _ => rfl

theorem setSession (s : Session σ) :
    Resupplied ids (Action.setSession s) (Action.setSession (s.resupply ids)) := fun _ => rfl

theorem bind {act act' : Action σ α} {next next' : α → Action σ β} (h : Resupplied ids act act')
    (hnext : ∀ a, Resupplied ids (next a) (next' a)) :
    Resupplied ids (act >>= next) (act' >>= next') := by
  intro w
  rw [exec_bind, exec_bind, h w]
  cases act.exec w with
  | mk result w' =>
    cases result with
    | ok a => exact hnext a w'
    | error e => rfl

theorem session_bind {next next' : Session σ → Action σ β}
    (h : ∀ s : Session σ, Resupplied ids (next s) (next' (s.resupply ids))) :
    Resupplied ids (session >>= next) (session >>= next') := fun w => h w.session w

theorem printDebug (line : String) :
    Resupplied ids (Action.printDebug line) (Action.printDebug line) := by
  refine session_bind fun s => ?_
  have hdebug : (s.resupply ids).debug = s.debug := rfl
  rw [hdebug]
  split
  · exact print line
  · exact pure ()

theorem printTransformation (rules : List Rule) (before after : String) :
    Resupplied ids (Action.printTransformation rules before after)
      (Action.printTransformation rules before after) :=
  bind (print _) fun _ => bind (print _) fun _ => bind (print _) fun _ =>
    bind (print _) fun _ => bind (print _) fun _ => print _

theorem compile : Resupplied ids Action.compile Action.compile := by
  refine session_bind fun s => ?_
  rw [rules_resupply]
  refine bind (ofExcept _) fun rules => ?_
  exact bind (setSession _) fun _ => bind (printDebug _) fun _ => pure rules

theorem rules : Resupplied ids Action.rules Action.rules := by
  intro w
  have hcompiled : (w.resupply ids).session.compiled = w.session.compiled := rfl
  have hrevision : (w.resupply ids).session.store.revision = w.session.store.revision := rfl
  rw [exec_rules, exec_rules, hcompiled, hrevision]
  cases w.session.compiled with
  | none => exact compile w
  | some c =>
    by_cases hlast : c.1 = w.session.store.revision
    · simp only [if_pos hlast]
    · simp only [if_neg hlast]
      exact compile w

theorem transform (text : Option String) :
    Resupplied ids (Action.transform text) (Action.transform text) := by
  refine bind rules fun rules => ?_
  cases text with
  | none => exact pure _
  | some t =>
    refine session_bind fun s => ?_
    have hdebug : (s.resupply ids).debug = s.debug := rfl
    rw [hdebug]
    split
    · exact bind (printTransformation _ _ _) fun _ => pure _
    · exact pure _

end Resupplied
end Action

theorem run_eq (s : Session σ) (act : Action σ α) :
    s.run act =
      ((act.exec ⟨s, ""⟩).1, (act.exec ⟨s, ""⟩).2.printed, (act.exec ⟨s, ""⟩).2.session) := rfl

/-- To transform a text no identifier is drawn. -/
theorem run_transform_resupply (ids : σ) (s : Session σ) (text : Option String) :
    (s.resupply ids).run (Action.transform text) =
      ((s.run (Action.transform text)).1, (s.run (Action.transform text)).2.1,
        (s.run (Action.transform text)).2.2.resupply ids) := by
  have hexec : (Action.transform text).exec ⟨s.resupply ids, ""⟩ =
      (((Action.transform text).exec ⟨s, ""⟩).1,
        ((Action.transform text).exec ⟨s, ""⟩).2.resupply ids) :=
    Action.Resupplied.transform text ⟨s, ""⟩
  rw [run_eq, run_eq, hexec]
  rfl

variable [IdSupply σ]

theorem load_eq (saved : Json) (ids : σ) :
    load saved ids =
      start ((Settings.load saved ids).1.toStore (Settings.load saved ids).2)
        (Settings.load saved ids).1.active (Settings.load saved ids).1.debugMode := by
  unfold load
  cases Settings.load saved ids
  rfl

theorem load_sound (saved : Json) (ids : σ) : (load saved ids).store.Sound :=
  (Settings.load_consistent saved ids).graph

/-- Loaded settings that have been saved are loaded again as they were, whatever the supply is. -/
theorem load_load (saved : Json) (ids ids' : σ) :
    load (load saved ids).settings.toJson ids' = (load saved ids).resupply ids' := by
  have hload : Settings.load (load saved ids).settings.toJson ids' =
      ((load saved ids).settings, ids') := by
    rw [settings_load, Settings.load_toJson (Settings.load_consistent saved ids)]
    exact Settings.withDefaultLinks_of_done ids' (Settings.load_done saved ids)
  rw [load_eq, hload]
  rfl

end PasteRules.Session
