import PasteRules.Proofs.Rules.Replacing
import PasteRules.Proofs.Session.Cache

/-! What a session decides about a paste: the conditions one after the other, and then what its
rules make of the text. -/
namespace PasteRules.Session

variable {σ α β : Type}

/-- The rules that a session carries out: those compiled last if its store still has their revision,
else those of the store. -/
def currentRules (s : Session σ) : Except Fault (List Rule) :=
  match s.compiled with
  | some (revision, rules) => if revision = s.store.revision then .ok rules else s.store.rules
  | none => s.store.rules

namespace Action

/-- Run on the session, the action ends with the result, whatever has been printed before. -/
def Yields (act : Action σ α) (s : Session σ) (result : Except Fault α) : Prop :=
  ∀ printed, (act.exec ⟨s, printed⟩).1 = result

namespace Yields

variable {s : Session σ}

theorem of_answers {act : Action σ α} {a : α} (h : Answers act a) : Yields act s (.ok a) :=
  fun printed => (h ⟨s, printed⟩).1

theorem session_bind {next : Session σ → Action σ β} {result : Except Fault β}
    (h : Yields (next s) s result) : Yields (session >>= next) s result := h

/-- An action that only answers leaves the session to the next one. -/
theorem answers_bind {act : Action σ α} {next : α → Action σ β} {a : α} {result : Except Fault β}
    (h : Answers act a) (hnext : Yields (next a) s result) : Yields (act >>= next) s result := by
  intro printed
  obtain ⟨hanswer, hsession⟩ := h ⟨s, printed⟩
  rw [exec_bind]
  cases hact : act.exec ⟨s, printed⟩ with
  | mk answer w =>
    rw [hact] at hanswer hsession
    obtain rfl : answer = .ok a := hanswer
    obtain rfl : w.session = s := hsession
    exact hnext w.printed

theorem ofExcept_bind {outcome : Except Fault α} {next : α → Action σ β}
    {result : α → Except Fault β} (h : ∀ a, Yields (next a) s (result a)) :
    Yields (ofExcept outcome >>= next) s (outcome.bind result) := by
  intro printed
  rw [exec_bind, exec_ofExcept]
  cases outcome with
  | error e => rfl
  | ok a => exact h a printed

theorem bind_answers {act : Action σ α} {next : α → Action σ β} {answer : α → β}
    {result : Except Fault α} (h : Yields act s result) (hnext : ∀ a, Answers (next a) (answer a)) :
    Yields (act >>= next) s (result.map answer) := by
  intro printed
  rw [(exec_bind_of_answers act hnext ⟨s, printed⟩).1, h printed]

end Yields

theorem rules_yields (s : Session σ) : Yields rules s s.currentRules := by
  intro printed
  obtain ⟨store, active, debug, compiled⟩ := s
  rw [exec_rules]
  cases compiled with
  | none => exact (exec_compile _).1
  | some cache =>
    dsimp only [currentRules]
    split
    · rfl
    · exact (exec_compile _).1

theorem transform_yields (text : Option String) (s : Session σ) :
    Yields (transform text) s (s.currentRules.map fun rules => Rule.transform rules text) := by
  obtain ⟨next, heq, hnext⟩ := transform_bind (σ := σ) text
  rw [heq]
  exact (rules_yields s).bind_answers hnext

def decisionOn (text result : String) : PasteDecision :=
  if result = text then .leave else .replace result

def decided (s : Session σ) (types : Option (List Json)) (text : Option String) :
    Except Fault PasteDecision :=
  match isPlainText types, text with
  | true, some t =>
    if t = "" then .ok .leave
    else (s.currentRules.map fun rules => Rule.transform rules (some t)).map (decisionOn t)
  | _, _ => .ok .leave

/-- A paste is looked at only if the session is active and nobody has handled it. -/
theorem paste_yields (types : Json) (text : Option String) (handled : Bool) (s : Session σ) :
    Yields (paste types text handled) s
      (if s.active = false ∨ handled = true then .ok .leave
      else (contentTypes? types).bind fun types => decided s types text) := by
  refine .session_bind ?_
  cases hactive : s.active with
  | false => exact .of_answers (.bind (.printDebug _) (.pure _))
  | true =>
    cases handled with
    | true => exact .of_answers (.bind (.printDebug _) (.pure _))
    | false =>
      refine .ofExcept_bind fun types => .answers_bind (.printDebug _) ?_
      unfold decided
      cases isPlainText types with
      | false => exact .of_answers (.pure _)
      | true =>
        cases text with
        | none => exact .of_answers (.pure _)
        | some t =>
          dsimp only
          split
          · exact .of_answers (.pure _)
          · exact .bind_answers (transform_yields _ s) fun result =>
              .bind (.printDebug _) (.pure (decisionOn t result))

end Action

/-- Where a rule wins whose template is the whole match, the text comes out as it went in, and a
session that carries out these rules leaves its paste alone. -/
theorem whole_match_changes_nothing {rules : List Rule} {rule : Rule} {text : String}
    {m : Regex.Match} (hrule : rule.IsCompiled) (htemplate : rule.template = "$&")
    (hwins : Rule.Wins rules text rule m) :
    Rule.transform rules (some text) = text ∧
      ∀ (s : Session σ) types items handled, (s.run Action.rules).1 = .ok rules →
        Action.contentTypes? types = .ok items →
          (s.run (Action.paste types (some text) handled)).1 = .ok .leave := by
  have hwhole : ∀ m, Template.replacement rule.regex
      (Template.forRegex rule.regex rule.template.toList) m = m.whole := by
    rw [htemplate]
    exact Template.replacement_whole rule.regex
  have htransform := hwins.transform_eq_self hrule hwhole
  refine ⟨htransform, fun s types items handled hrules htypes => ?_⟩
  have hcurrent : s.currentRules = .ok rules := (Action.rules_yields s "").symm.trans hrules
  have hdecided : Action.decided s items (some text) = .ok .leave := by
    unfold Action.decided
    cases Action.isPlainText items with
    | false => rfl
    | true =>
      dsimp only
      split
      · rfl
      · simp [hcurrent, Except.map, htransform, Action.decisionOn]
  refine (Action.paste_yields types (some text) handled s "").trans ?_
  split
  · rfl
  · rw [htypes]
    exact hdecided

/-- The places before a letter a, the letters a, and the end. -/
def placesOfAs : Regex :=
  ⟨"(?=a)|a|$", 0, [], .alt (.look .ahead false (.char (.literal 'a'.toNat false .exact)))
    (.alt (.char (.literal 'a'.toNat false .exact)) (.anchor .finalLineEnd))⟩

/-- Empty matches of two kinds, each right before or behind a match that is not empty. -/
theorem whole_match_changes_no_place :
    ∃ rules rule m, rule.IsCompiled ∧ rule.template = "$&" ∧ Rule.Wins rules "baab" rule m ∧
      ∃ s : Session Counting, s.active = true ∧ (s.run Action.rules).1 = .ok rules ∧
        Rule.transform rules (some "baab") = "baab" ∧
        (s.run (Action.paste (.arr [.str "text/plain"]) (some "baab") false)).1 = .ok .leave := by
  let rule : Rule := .make "l-1" placesOfAs "$&"
  let place : Regex.Cursor := ⟨['b'], ['a', 'a', 'b'], 3, rfl⟩
  let m : Regex.Match := ⟨place, place, []⟩
  let store : Store Counting := ⟨[⟨"p-1", "(?=a)|a|$"⟩], [⟨"r-1", "$&"⟩],
    [⟨"l-1", "p-1", "r-1", true, ""⟩], 0, ⟨1⟩⟩
  have hcompiled : rule.IsCompiled := ⟨⟨"(?=a)|a|$", by decide +kernel⟩, rfl⟩
  have hwins : Rule.Wins [rule] "baab" rule m := ⟨⟨[], [], rfl, by simp⟩, by decide +kernel⟩
  have hrules : ((Session.start store true false).run Action.rules).1 = .ok [rule] := by
    decide +kernel
  obtain ⟨htransform, hpaste⟩ := whole_match_changes_nothing (σ := Counting) hcompiled rfl hwins
  exact ⟨[rule], rule, m, hcompiled, rfl, hwins, .start store true false, rfl, hrules, htransform,
    hpaste _ _ _ false hrules rfl⟩

end PasteRules.Session
