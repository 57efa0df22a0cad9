import PasteRules.Proofs.Session.Action
import PasteRules.Proofs.Session.Run

/-! Rules compiled before are used again only where they are those that would be compiled now. -/
namespace PasteRules.Session

variable {σ : Type}

/-- A cache has a revision the store has reached. If it is the last one, it holds the store's rules.
-/
def Coherent (s : Session σ) : Prop :=
  ∀ revision rules, s.compiled = some (revision, rules) →
    revision ≤ s.store.revision ∧ (revision = s.store.revision → s.store.rules = .ok rules)

namespace Coherent

theorem of_none {s : Session σ} (h : s.compiled = none) : s.Coherent := by
  intro revision rules hc
  rw [h] at hc
  cases hc

theorem compiled {s : Session σ} {rules : List Rule} (h : s.store.rules = .ok rules) :
    Coherent { s with compiled := some (s.store.revision, rules) } := by
  intro revision rules' hc
  obtain ⟨rfl, rfl⟩ : s.store.revision = revision ∧ rules = rules' := by simpa using hc
  exact ⟨Nat.le_refl _, fun _ => h⟩

/-- A revision that an edit counts leaves every cache behind. -/
theorem edit [IdSupply σ] {s : Session σ} (h : s.Coherent) {e : Edit}
    (he : e.hasIntegerIndex = true) : Coherent { s with store := (s.store.edit e).2 } := by
  intro revision rules hc
  obtain ⟨hle, hrules⟩ := h revision rules hc
  show revision ≤ (s.store.edit e).2.revision ∧
    (revision = (s.store.edit e).2.revision → (s.store.edit e).2.rules = .ok rules)
  rcases (s.store.edit_effect e).revision_or_rules he with hcounted | ⟨hrevision, hkept⟩
  -- The cache bears an earlier revision and counts for nothing from now on.
  · rw [hcounted]
    exact ⟨by omega, fun hlast => by omega⟩
  · rw [hrevision, hkept]
    exact ⟨hle, hrules⟩

end Coherent

namespace Action

def compile : Action σ (List Rule) := do
  let s ← session
  let rules ← ofExcept s.store.rules
  setSession { s with compiled := some (s.store.revision, rules) }
  let shown := Json.shown (.arr (rules.map fun r => .str ("#" ++ r.linkId)))
  printDebug ("Rule queue: " ++ shown ++ "\n")
  return rules

theorem exec_rules (w : Work σ) :
    rules.exec w =
      match w.session.compiled with
      | some (revision, rules) =>
        if revision = w.session.store.revision then (.ok rules, w) else compile.exec w
      | none => compile.exec w := by
  obtain ⟨⟨store, active, debug, compiled⟩, printed⟩ := w
  cases compiled with
  | none => rfl
  | some c =>
    simp only [rules, exec_session_bind]
    split <;> rfl

/-- The action answers the rules of the store as it is, and of the session only the cache changes,
to a coherent one. -/
def AnswersRules (act : Action σ (List Rule)) (w : Work σ) : Prop :=
  (act.exec w).1 = w.session.store.rules ∧
    ∃ compiled, (act.exec w).2.session = { w.session with compiled } ∧
      Coherent { w.session with compiled }

/-- Rules that compile are remembered; where they do not, the session stays as it was. -/
theorem exec_compile (w : Work σ) :
    (compile.exec w).1 = w.session.store.rules ∧
      (compile.exec w).2.session = { w.session with
        compiled := match w.session.store.rules with
          | .ok rules => some (w.session.store.revision, rules)
          | .error _ => w.session.compiled } := by
  unfold compile
  rw [exec_session_bind, exec_bind, exec_ofExcept]
  cases w.session.store.rules with
  | error e => exact ⟨rfl, rfl⟩
  | ok rules =>
    let cached := { w.session with compiled := some (w.session.store.revision, rules) }
    have hreport : Answers (printDebug ("Rule queue: " ++
        Json.shown (.arr (rules.map fun r => .str ("#" ++ r.linkId))) ++ "\n") >>= fun _ =>
          (pure rules : Action σ (List Rule))) rules :=
      .bind (.printDebug _) (.pure rules)
    exact hreport { w with session := cached }

theorem compile_answersRules {w : Work σ} (h : w.session.Coherent) : AnswersRules compile w := by
  obtain ⟨hresult, hsession⟩ := exec_compile w
  refine ⟨hresult, _, hsession, ?_⟩
  cases hr : w.session.store.rules with
  | error e => exact h
  | ok rules => exact .compiled hr

theorem rules_answersRules {w : Work σ} (h : w.session.Coherent) : AnswersRules rules w := by
  unfold AnswersRules
  rw [exec_rules]
  split
  · next revision rules hc =>
    split
    · next hlast => exact ⟨((h revision rules hc).2 hlast).symm, w.session.compiled, rfl, h⟩
    · exact compile_answersRules h
  · exact compile_answersRules h

end Action

/-- The sessions differ at most in their caches, which are coherent. -/
structure Twins (s t : Session σ) : Prop where
  store : s.store = t.store
  active : s.active = t.active
  debug : s.debug = t.debug
  left : s.Coherent
  right : t.Coherent

namespace Twins

theorem refl {s : Session σ} (h : s.Coherent) : Twins s s := ⟨rfl, rfl, rfl, h, h⟩

theorem forget_right {s t : Session σ} (h : Twins s t) : Twins s t.forget :=
  ⟨h.store, h.active, h.debug, h.left, .of_none rfl⟩

theorem edit [IdSupply σ] {s t : Session σ} (h : Twins s t) {e : Edit}
    (he : e.hasIntegerIndex = true) :
    Twins { s with store := (s.store.edit e).2 } { t with store := (t.store.edit e).2 } :=
  ⟨congrArg (fun store => (store.edit e).2) h.store, h.active, h.debug, h.left.edit he,
    h.right.edit he⟩

end Twins

namespace Action

theorem rules_alike : Alike Twins (rules : Action σ (List Rule)) rules := by
  intro v w h
  obtain ⟨hv, compiled, hv', hcv⟩ := rules_answersRules h.left
  obtain ⟨hw, compiled', hw', hcw⟩ := rules_answersRules h.right
  rw [hv, hw, hv', hw', h.store]
  exact ⟨rfl, h.store, h.active, h.debug, hcv, hcw⟩

theorem twins_congruent [IdSupply σ] :
    Congruent (fun e => e.hasIntegerIndex = true) (Twins (σ := σ)) where
  store h := h.store
  active h := h.active
  rules := rules_alike
  setActive h _ := ⟨h.store, rfl, h.debug, h.left, h.right⟩
  edit h _ he := h.edit he

theorem save_alike [IdSupply σ] : Alike Twins (save : Action σ Json) save := by
  refine .session_bind fun s t h => ?_
  have hpruned := h.edit (e := .pruneDanglingLinks) rfl
  simp only [Store.edit_pruneDanglingLinks] at hpruned
  rw [h.active, h.debug, h.store] at hpruned ⊢
  exact .bind (.setSession hpruned) fun _ => .pure _

theorem step_alike [IdSupply σ] {step : Step} (hstep : step.hasIntegerIndex = true) :
    Alike Twins (Action.step step : Action σ Reply) (Action.step step) := by
  by_cases hsave : step = .save
  · subst hsave
    exact .bind save_alike fun _ => .pure _
  by_cases hdebug : ∃ value, step = .setDebug value
  · obtain ⟨value, rfl⟩ := hdebug
    refine .session_bind fun s t h => .bind (.setSession ?_) fun _ => .pure _
    exact ⟨h.store, h.active, rfl, h.left, h.right⟩
  · exact twins_congruent.step (fun e he => by subst he; exact hstep) hsave
      fun value h => hdebug ⟨value, h⟩

end Action

/-- A text is transformed by the rules that the store compiles to, and of the session only the cache
changes. -/
theorem Coherent.run_transform {s : Session σ} (h : s.Coherent) (text : Option String) :
    (s.run (Action.transform text)).1 =
        s.store.rules.map (fun rules => Rule.transform rules text) ∧
      ∃ compiled, (s.run (Action.transform text)).2.2 = { s with compiled } ∧
        Coherent { s with compiled } := by
  obtain ⟨next, heq, hnext⟩ := Action.transform_bind (σ := σ) text
  obtain ⟨hrules, compiled, hafter, hcoherent⟩ := Action.rules_answersRules (w := ⟨s, ""⟩) h
  obtain ⟨hresult, hsession⟩ := Action.exec_bind_of_answers Action.rules hnext ⟨s, ""⟩
  rw [heq]
  exact ⟨hresult.trans (congrArg _ hrules), compiled, hsession.trans hafter, hcoherent⟩

variable [IdSupply σ]

theorem Twins.next {s t : Session σ} (h : Twins s t) {step : Step}
    (hstep : step.hasIntegerIndex = true) :
    (s.next step).1 = (t.next step).1 ∧ Twins (s.next step).2 (t.next step).2 :=
  Action.step_alike hstep ⟨s, ""⟩ ⟨t, ""⟩ h

theorem Coherent.after {s : Session σ} (h : s.Coherent) {steps : List Step}
    (hsteps : ∀ step ∈ steps, step.hasIntegerIndex = true) : (s.after steps).Coherent := by
  induction steps generalizing s with
  | nil => exact h
  | cons step rest ih =>
    obtain ⟨hstep, hrest⟩ := List.forall_mem_cons.mp hsteps
    exact ih ((Twins.refl h).next hstep).2.left hrest

theorem Coherent.next_rules {s : Session σ} (h : s.Coherent) :
    (s.next .rules).1 = s.store.rules.map fun rules => .answer (.rules rules) := by
  obtain ⟨hresult, -⟩ := Action.rules_answersRules (w := ⟨s, ""⟩) h
  have hreply : (s.next .rules).1 =
      (Action.rules.exec ⟨s, ""⟩).1.map fun rules => Reply.answer (.rules rules) :=
    (Action.exec_bind_of_answers Action.rules (fun _ => .pure _) ⟨s, ""⟩).1
  rw [hreply, hresult]

/-- A text is transformed by the rules that the store compiles to at that moment. -/
theorem Coherent.next_transform {s : Session σ} (h : s.Coherent) (text : Option String) :
    (s.next (.transform text)).1 =
      s.store.rules.map fun rules => .text (Rule.transform rules text) := by
  have hreply : (s.next (.transform text)).1 = (s.run (Action.transform text)).1.map Reply.text :=
    (Action.exec_bind_of_answers (Action.transform text) (fun _ => .pure _) ⟨s, ""⟩).1
  rw [hreply, (h.run_transform text).1]
  cases s.store.rules <;> rfl

theorem Twins.replies_afresh {s t : Session σ} (h : Twins s t) {steps : List Step}
    (hsteps : ∀ step ∈ steps, step.hasIntegerIndex = true) :
    s.replies steps = t.repliesAfresh steps := by
  induction steps generalizing s t with
  | nil => rfl
  | cons step rest ih =>
    obtain ⟨hstep, hrest⟩ := List.forall_mem_cons.mp hsteps
    -- The other session forgets its cache before the step, which leaves it a twin.
    obtain ⟨hreply, hnext⟩ := h.forget_right.next hstep
    exact congrArg₂ List.cons hreply (ih hnext hrest)

theorem Opened.coherent {s : Session σ} (h : Opened s) : s.Coherent := by
  cases h with
  | load saved ids => exact .of_none rfl
  | start active debug h => exact .of_none rfl

/-- At every moment of a run the session's rules are those its store compiles to then, and each
step is answered as by a session that compiles its rules anew. -/
theorem Opened.run_afresh {s : Session σ} (hs : Opened s) {steps : List Step}
    (hsteps : ∀ step ∈ steps, step.hasIntegerIndex = true) :
    (((s.after steps).next .rules).1 =
      (s.after steps).store.rules.map fun rules => .answer (.rules rules)) ∧
    s.replies steps = s.repliesAfresh steps :=
  ⟨(hs.coherent.after hsteps).next_rules, (Twins.refl hs.coherent).replies_afresh hsteps⟩

def mixedSteps : List Step :=
  [.rules, .edit (.setLinkComment "l-9" none), .rules, .edit (.editPattern "p-2" "a+"),
    .transform (some "baab"), .edit (.moveLink "l-10" (.int (-1))), .setActive false,
    .edit (.removeReplacer "r-8"), .save, .toggleActive,
    .paste (.arr [.str "text/plain"]) (some "aa") false]

theorem mixedSteps_run_afresh :
    let s : Session Counting := Session.load .null ⟨1⟩
    Opened s ∧ (∀ step ∈ mixedSteps, step.hasIntegerIndex = true) ∧
      (((s.after mixedSteps).next .rules).1 =
        (s.after mixedSteps).store.rules.map fun rules => .answer (.rules rules)) ∧
      s.replies mixedSteps = s.repliesAfresh mixedSteps := by
  have hs : Opened (Session.load .null (Counting.mk 1)) := .load _ _
  have hsteps : ∀ step ∈ mixedSteps, step.hasIntegerIndex = true := by
    simp [mixedSteps, Step.hasIntegerIndex, Edit.hasIntegerIndex]
  exact ⟨hs, hsteps, hs.run_afresh hsteps⟩

end PasteRules.Session
