import PasteRules.Proofs.Regex.Tiling
import PasteRules.Proofs.Rules.Diagnosis
import PasteRules.Proofs.Rules.Winner
import PasteRules.Proofs.Template.Escape
import PasteRules.Proofs.Template.References

/-! Carrying out the rule that wins. It replaces all its matches, from the one that made it win on,
and what stands outside of them stays. -/
namespace PasteRules

open Regex Template

namespace Template

theorem parse_whole (groups : Nat) (names : List String) :
    parse groups names ['$', '&'] = [.whole] := by
  have hruns : (Opening.mk 2 [] ['&'] []).Runs [] := runs_symbol (by simp) []
  have hplaceholders : placeholdersFrom [] ['$', '&'] =
      [(Opening.mk 2 [] ['&'] []).found [] []] := by
    have hopening := placeholdersFrom_opening hruns []
    rwa [placeholdersFrom_nil] at hopening
  have hparts : placeholderParts? groups names ((Opening.mk 2 [] ['&'] []).found [] []) =
      some [.whole] :=
    placeholderParts?_found _ _ _ (by simp)
  rw [parse]
  change ((stitch groups names _ (placeholdersFrom [] ['$', '&'])).filter Part.isSome) = _
  rw [hplaceholders, stitch, hparts]
  rfl

/-- The template of the whole match replaces each match by itself. -/
theorem replacement_whole (r : Regex) (m : Regex.Match) :
    replacement r (forRegex r "$&".toList) m = m.whole := by
  have hparts : forRegex r "$&".toList = [.whole] := parse_whole _ _
  rw [hparts]
  simp [replacement, expand?, Part.expand?]

end Template

namespace Rule

structure IsCompiled (rule : Rule) : Prop where
  regex : ∃ pattern, compile pattern = .ok rule.regex
  made : rule = .make rule.linkId rule.regex rule.template

/-- The rule is the first of the list that matches in the text, and this is its first match. -/
structure Wins (rules : List Rule) (text : String) (rule : Rule) (m : Regex.Match) : Prop where
  first : ∃ earlier later, rules = earlier ++ rule :: later ∧
    ∀ other ∈ earlier, other.regex.find? text.toList = none
  found : rule.regex.find? text.toList = some m

variable {rules : List Rule} {rule : Rule} {text : String} {m : Regex.Match}

theorem Wins.winner?_eq (h : Wins rules text rule m) : winner? rules text = some rule := by
  obtain ⟨earlier, later, hrules, hearlier⟩ := h.first
  refine List.find?_eq_some_iff_append.mpr ⟨?_, earlier, later, hrules, fun other hother => ?_⟩
  · rw [applies, h.found]
    rfl
  · rw [applies, hearlier other hother]
    rfl

theorem winner?_eq_none (h : ∀ rule ∈ rules, rule.regex.find? text.toList = none) :
    winner? rules text = none := by
  refine List.find?_eq_none.mpr fun rule hrule => ?_
  rw [applies, h rule hrule]
  exact Bool.false_ne_true

/-- The rule that wins is carried out. -/
theorem Wins.transform_eq (h : Wins rules text rule m) (hrule : rule.IsCompiled)
    (htext : text ≠ "") :
    transform rules (some text) = String.ofList (rule.regex.replace
      (replacement rule.regex (forRegex rule.regex rule.template.toList)) text.toList) := by
  have hparts : rule.parts = forRegex rule.regex rule.template.toList := by
    rw [hrule.made]
    rfl
  simp only [transform, if_neg htext, h.winner?_eq, apply, hparts]

/-- A rule whose replacement is the match itself changes nothing. -/
theorem Wins.transform_eq_self (h : Wins rules text rule m) (hrule : rule.IsCompiled)
    (hwhole : ∀ m, replacement rule.regex (forRegex rule.regex rule.template.toList) m = m.whole) :
    transform rules (some text) = text := by
  by_cases htext : text = ""
  · subst htext
    rfl
  · have hreplacement : replacement rule.regex (forRegex rule.regex rule.template.toList) =
        Match.whole := funext hwhole
    rw [h.transform_eq hrule htext, hreplacement, replace_whole, String.ofList_toList]

end Rule

/-- The rules of a store are compiled. -/
theorem Store.isCompiled_of_mem_rules {σ : Type} {s : Store σ} {rules : List Rule} {rule : Rule}
    (h : s.rules = .ok rules) (hrule : rule ∈ rules) : rule.IsCompiled := by
  rw [gather_eq_filterMap h] at hrule
  obtain ⟨l, -, hl⟩ := List.mem_filterMap.mp hrule
  have hfinding := s.finding l
  rw [toOption_join_eq_some_iff.mp hl] at hfinding
  generalize s.statusOf l = status at hfinding
  cases hfinding with
  | @compiled pattern template regex huses ht hc =>
    exact ⟨⟨pattern, compile_of_compilePattern hc⟩, rfl⟩

namespace Rule

/-- Every text can be written as a template: the text with its dollar signs doubled is read as text
alone, expands to the text for every match, and puts the text in the place of every match where a
rule with this template wins. In an empty string no rule is looked for. -/
theorem escape_stands_for_text (text : List Char) :
    (∀ groups names, ∃ pieces : List (List Char),
      parse groups names (escape text) = pieces.map .literal ∧ pieces.flatten = text) ∧
    (∀ r m, expand? r (forRegex r (escape text)) m = some text) ∧
    ∀ rules rule string m, rule.IsCompiled → rule.template = String.ofList (escape text) →
      Wins rules string rule m →
        ∃ found, rule.regex.matchesFrom (.ofText string.toList) false = m :: found ∧
          (rule.regex.outside string.toList).length = (m :: found).length + 1 ∧
          weave (rule.regex.outside string.toList) ((m :: found).map Match.whole) =
            string.toList ∧
          transform rules (some string) = if string = "" then "" else String.ofList
            (weave (rule.regex.outside string.toList) ((m :: found).map fun _ => text)) := by
  refine ⟨fun groups names => exists_pieces_escape text, fun r m => expand?_escape r text m, ?_⟩
  intro rules rule string m hrule htemplate hwins
  obtain ⟨found, hfound⟩ := matchesFrom_eq_cons hwins.found
  have htext : replacement rule.regex (forRegex rule.regex rule.template.toList) =
      fun _ => text := by
    funext m
    rw [htemplate, String.toList_ofList, replacement, expand?_escape]
    rfl
  refine ⟨found, hfound, ?_, ?_, ?_⟩
  · rw [outside, leftBy_length, hfound]
  · rw [← hfound, weave_outside]
  · split
    · subst string
      rfl
    · rw [hwins.transform_eq hrule ‹_›, htext, replace_eq_weave, hfound]

def anyAs : Regex := ⟨"a*", 0, [], .loop .greedy 0 none (.char (.literal 'a'.toNat false .exact))⟩

/-- A text that looks like references, put in at two empty matches and at one that is not. -/
theorem escape_stands_for_look_alikes :
    ∃ rule m, rule.IsCompiled ∧ rule.template = String.ofList (escape "$1$$".toList) ∧
      Wins [rule] "ba" rule m ∧ transform [rule] (some "ba") = "$1$$b$1$$$1$$" := by
  let rule : Rule := .make "l-1" anyAs "$$1$$$$"
  let m : Regex.Match := ⟨.ofText ['b', 'a'], .ofText ['b', 'a'], []⟩
  have hcompiled : rule.IsCompiled := ⟨⟨"a*", by decide +kernel⟩, rfl⟩
  have htemplate : rule.template = String.ofList (escape "$1$$".toList) := by decide +kernel
  have hwins : Wins [rule] "ba" rule m := ⟨⟨[], [], rfl, by simp⟩, by decide +kernel⟩
  refine ⟨rule, m, hcompiled, htemplate, hwins, ?_⟩
  obtain ⟨found, hfound, -, -, htransform⟩ :=
    (escape_stands_for_text "$1$$".toList).2.2 _ _ _ _ hcompiled htemplate hwins
  rw [htransform, ← hfound]
  decide +kernel

/-- The rule that wins is carried out from the match on that made it win: before the match nothing
changes, the match becomes what the template expands to for it, and what follows is what stood there
if no other match is replaced. Where no rule matches, the text stays. -/
theorem transform_from_found_match (rules : List Rule) (text : String) :
    (∀ rule m, rule.IsCompiled → Wins rules text rule m → text ≠ "" →
      ∃ inserted remainder found,
        expand? rule.regex (forRegex rule.regex rule.template.toList) m = some inserted ∧
        transform rules (some text) = String.ofList (m.before ++ inserted ++ remainder) ∧
        rule.regex.matchesFrom (.ofText text.toList) false = m :: found ∧
        (found = [] → remainder = m.after) ∧
        m.before ++ m.whole ++ m.after = text.toList) ∧
    ((∀ rule ∈ rules, rule.regex.find? text.toList = none) →
      transform rules (some text) = text) := by
  refine ⟨?_, fun h => transform_eq_self (winner?_eq_none h)⟩
  intro rule m hrule hwins htext
  obtain ⟨pattern, hcompile⟩ := hrule.regex
  have hwithin := within_of_find? hwins.found
  obtain ⟨found, remainder, hfound, hreplace, hremainder⟩ := replace_eq_append hwins.found
  refine ⟨_, remainder, found, expand?_forRegex hcompile hwithin _, ?_, hfound, hremainder,
    hwithin.cuts⟩
  rw [hwins.transform_eq hrule htext, hreplace]

/-- What is empty or the letter x behind an a, or else the letter b. -/
def behindAs : Regex :=
  ⟨"(?<=a)(x?)|b", 1, [], .alt
    (.seq (.look (.behind ⟨1, 1⟩) false (.char (.literal 'a'.toNat false .exact)))
      (.group 1 (.loop .greedy 0 (some 1) (.char (.literal 'x'.toNat false .exact)))))
    (.char (.literal 'b'.toNat false .exact))⟩

/-- The match that is found is empty and looks behind; another one follows it at the same place. The
rule before finds nothing, and by itself it changes nothing. -/
theorem transform_from_found_behind :
    ∃ idle rule m, rule.IsCompiled ∧ Wins [idle, rule] "cab" rule m ∧ "cab" ≠ "" ∧
      (∃ remainder, transform [idle, rule] (some "cab") = "ca<ca||b>" ++ remainder) ∧
      (∀ r ∈ [idle], r.regex.find? "cab".toList = none) ∧
      transform [idle] (some "cab") = "cab" := by
  let idle : Rule := .make "l-1" ⟨"x", 0, [], .char (.literal 'x'.toNat false .exact)⟩ "y"
  let rule : Rule := .make "l-2" behindAs "<$`|$1|$'>"
  let place : Regex.Cursor := ⟨['a', 'c'], ['b'], 1, rfl⟩
  let m : Regex.Match := ⟨place, place, [⟨some place, some place⟩]⟩
  have hcompiled : rule.IsCompiled := ⟨⟨"(?<=a)(x?)|b", by decide +kernel⟩, rfl⟩
  have hidle : ∀ r ∈ [idle], r.regex.find? "cab".toList = none := by decide +kernel
  have hwins : Wins [idle, rule] "cab" rule m := ⟨⟨[idle], [], rfl, hidle⟩, by decide +kernel⟩
  refine ⟨idle, rule, m, hcompiled, hwins, by decide, ?_, hidle, ?_⟩
  · obtain ⟨inserted, remainder, -, hinserted, htransform, -⟩ :=
      (transform_from_found_match [idle, rule] "cab").1 rule m hcompiled hwins (by decide)
    have htext : expand? rule.regex (forRegex rule.regex rule.template.toList) m =
        some "<ca||b>".toList := by decide +kernel
    obtain rfl : "<ca||b>".toList = inserted := Option.some.inj (htext.symm.trans hinserted)
    refine ⟨String.ofList remainder, ?_⟩
    rw [htransform, String.ofList_append]
    rfl
  · exact (transform_from_found_match [idle] "cab").2 hidle

end Rule
end PasteRules
