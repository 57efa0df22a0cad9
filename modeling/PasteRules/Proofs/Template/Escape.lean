import PasteRules.Template.Expansion
import PasteRules.Proofs.Template.Parse

/-! Templates without references. Every text has a template that stands for it: the text with its
dollar signs doubled. -/
namespace PasteRules.Template

def escape (text : List Char) : List Char :=
  text.flatMap fun c => if c = '$' then ['$', '$'] else [c]

section

variable {groups : Nat} {names : List String}

/-- An escaped text reads as its characters: a dollar sign always meets its double, whatever comes
before and behind the two. -/
theorem reads_escape (text : List Char) : Reads groups names (escape text) (letters text) := by
  induction text with
  | nil => exact .done
  | cons c text ih =>
    by_cases hc : c = '$'
    · subst hc
      exact .placed (.dollar (escape text)) ih
    · have hcons : escape (c :: text) = c :: escape text := by simp [escape, hc]
      rw [hcons]
      exact .char hc ih

theorem letters_inj {text text' : List Char} : letters text = letters text' ↔ text = text' :=
  List.map_inj_right fun c d h => by simpa using h

/-- Parts that spell a text are pieces of it. -/
theorem exists_pieces_of_spelled {parts : List Part} {text : List Char}
    (h : spelled parts = letters text) :
    ∃ pieces : List (List Char), parts = pieces.map .literal ∧ pieces.flatten = text := by
  induction parts generalizing text with
  | nil =>
    have hnil : text = [] := List.map_eq_nil_iff.mp h.symm
    exact ⟨[], rfl, hnil.symm⟩
  | cons part parts ih =>
    obtain ⟨first, rest, rfl, hfirst, hrest⟩ := List.map_eq_append_iff.mp h.symm
    obtain ⟨pieces, rfl, rfl⟩ := ih hrest.symm
    cases part with
    | literal piece =>
      obtain rfl : first = piece := letters_inj.mp hfirst
      exact ⟨first :: pieces, rfl, rfl⟩
    | _ =>
      -- A reference is no character.
      obtain ⟨c, hc⟩ : ∃ c, first = [c] := List.length_eq_one_iff.mp (by
        simpa [Part.spell] using congrArg List.length hfirst)
      subst hc
      simp [Part.spell] at hfirst

theorem exists_pieces_escape (text : List Char) : ∃ pieces : List (List Char),
    parse groups names (escape text) = pieces.map .literal ∧ pieces.flatten = text :=
  exists_pieces_of_spelled (reads_escape text).eq_spelled_parse.symm

end

/-- Pieces of text expand to the text, whatever the match. -/
theorem expand?_literals (r : Regex) (pieces : List (List Char)) (m : Regex.Match) :
    expand? r (pieces.map .literal) m = some pieces.flatten := by
  induction pieces with
  | nil => rfl
  | cons piece pieces ih =>
    obtain ⟨texts, htexts, hflatten⟩ := Option.map_eq_some_iff.mp ih
    simp [expand?, List.mapM_cons, Part.expand?, htexts, hflatten]

theorem expand?_escape (r : Regex) (text : List Char) (m : Regex.Match) :
    expand? r (forRegex r (escape text)) m = some text := by
  obtain ⟨pieces, hparts, htext⟩ : ∃ pieces : List (List Char),
      forRegex r (escape text) = pieces.map .literal ∧ pieces.flatten = text :=
    exists_pieces_escape text
  rw [hparts, expand?_literals, htext]

end PasteRules.Template
