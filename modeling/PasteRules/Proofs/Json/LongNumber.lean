import Mathlib.Data.List.TakeWhile
import PasteRules.Proofs.Json.RoundTrip

/-! Integers that are too long to be read. Reading meets one only in a text where too many digits
stand in a row, since what a part of the reader leaves is the end of what it was given. -/
namespace PasteRules.Json

variable {α β : Type} {text rest : List Char}

def HasLongNumber (text : List Char) : Prop :=
  ∃ digits, digits <:+: text ∧ (∀ c ∈ digits, c.isDigit = true) ∧ digitLimit < digits.length

/-- What is left of a text is its end, and an integer that is too long stands in it. -/
def ComesOf (text : List Char) : Except ReadError (α × List Char) → Prop
  | .ok (_, rest) => rest <:+ text
  | .error .integerTooLong => HasLongNumber text
  | .error (.malformed _ _) => True

namespace ComesOf

theorem of_suffix {result : Except ReadError (α × List Char)} (h : ComesOf rest result)
    (hrest : rest <:+ text) : ComesOf text result := by
  cases result with
  | ok found => exact List.IsSuffix.trans h hrest
  | error e =>
    cases e with
    | malformed flaw left => trivial
    | integerTooLong =>
      obtain ⟨digits, hinfix, hdigits, hlong⟩ := h
      exact ⟨digits, hinfix.trans hrest.isInfix, hdigits, hlong⟩

theorem bind {result : Except ReadError (α × List Char)}
    {next : α × List Char → Except ReadError (β × List Char)} (h : ComesOf text result)
    (hnext : ∀ a rest, rest <:+ text → ComesOf text (next (a, rest))) :
    ComesOf text (result >>= next) := by
  cases result with
  | ok found => exact hnext found.1 found.2 h
  | error e => cases e <;> exact h

end ComesOf

theorem suffix_dropWhile_of_suffix {p : Char → Bool} (h : rest <:+ text) :
    rest.dropWhile p <:+ text := (List.dropWhile_suffix p).trans h

theorem readString_comesOf (start acc cs : List Char) : ComesOf cs (readString start acc cs) := by
  fun_induction readString start acc cs
  case case2 => exact List.suffix_cons _ _
  -- A step that does not stop goes on behind the characters that it has taken.
  case case5 | case6 | case7 | case9 | case12 | case15 =>
    rename_i ih
    exact ih.of_suffix (by simp [List.suffix_cons_iff])
  all_goals trivial

theorem wholeDigits_append (cs : List Char) :
    (wholeDigits cs).1 ++ (wholeDigits cs).2 = cs ∧ ∀ c ∈ (wholeDigits cs).1, c.isDigit = true := by
  unfold wholeDigits
  split
  · exact ⟨rfl, by simp⟩
  · exact ⟨List.takeWhile_append_dropWhile, fun c hc => List.mem_takeWhile_imp hc⟩

theorem fractionDigits_suffix (cs : List Char) : (fractionDigits cs).2 <:+ cs := by
  unfold fractionDigits
  split
  · split
    · exact List.suffix_refl _
    · exact suffix_dropWhile_of_suffix (List.suffix_cons _ _)
  · exact List.suffix_refl _

theorem exponentPart_suffix (cs : List Char) : (exponentPart cs).2 <:+ cs := by
  unfold exponentPart
  split
  · exact List.suffix_refl _
  · next e rest =>
    split
    · split
      next negative digits hsign =>
        have hdigits : digits <:+ rest := by
          split at hsign <;> cases hsign
          · exact List.suffix_cons _ _
          · exact List.suffix_cons _ _
          · exact List.suffix_refl _
        split
        · exact List.suffix_refl _
        · exact suffix_dropWhile_of_suffix (hdigits.trans (List.suffix_cons e rest))
    · exact List.suffix_refl _

theorem readNumber_comesOf (start : List Char) : ComesOf start (readNumber start) := by
  unfold readNumber
  split
  next negative cs hsign =>
    have hcs : cs <:+ start := by
      split at hsign <;> cases hsign
      · exact List.suffix_cons _ _
      · exact List.suffix_refl _
    obtain ⟨happend, hwhole⟩ := wholeDigits_append cs
    split
    · trivial
    · next whole afterWhole _ hread =>
      rw [hread] at happend hwhole
      have hinfix : whole <:+: start :=
        (List.IsPrefix.isInfix ⟨afterWhole, happend⟩).trans hcs.isInfix
      have hrest : (exponentPart (fractionDigits afterWhole).2).2 <:+ start :=
        (exponentPart_suffix _).trans ((fractionDigits_suffix _).trans
          (List.IsSuffix.trans ⟨whole, happend⟩ hcs))
      dsimp only
      split
      · split
        · next hlong => exact ⟨whole, hinfix, hwhole, hlong⟩
        · exact hrest
      · exact hrest

theorem skipSpace_suffix (cs : List Char) : skipSpace cs <:+ cs := List.dropWhile_suffix isSpace

theorem tail_suffix_of_skipSpace {cs : List Char} {c : Char} (h : skipSpace cs = c :: rest) :
    rest <:+ cs :=
  (List.suffix_cons c rest).trans (h ▸ skipSpace_suffix cs)

theorem afterWord?_suffix {word : String} {cs : List Char} (h : afterWord? word cs = some rest) :
    rest <:+ cs := by
  unfold afterWord? at h
  split at h
  · cases h
    exact List.drop_suffix _ _
  · cases h

theorem readWord_suffix {cs : List Char} {v : Json} (h : readWord cs = some (v, rest)) :
    rest <:+ cs := by
  obtain ⟨-, word, -, -, hword, -⟩ := List.findSome?_eq_some_iff.mp h
  obtain ⟨left, hleft, heq⟩ := Option.map_eq_some_iff.mp hword
  cases heq
  exact afterWord?_suffix hleft

section

variable {steps : Nat} (hvalue : ∀ cs, ComesOf cs (readValue steps cs))
  (hitems : ∀ cs, ComesOf cs (readItems steps cs))
  (hfields : ∀ cs, ComesOf cs (readFields steps cs))

include hitems hfields in
theorem readValue_comesOf (cs : List Char) : ComesOf cs (readValue (steps + 1) cs) := by
  unfold readValue
  split
  · next rest =>
    have hrest : rest <:+ '"' :: rest := List.suffix_cons _ _
    exact ((readString_comesOf _ _ _).of_suffix hrest).bind fun _ _ h => h
  · next rest =>
    have hrest : rest <:+ '[' :: rest := List.suffix_cons _ _
    split
    · next hclosed => exact (tail_suffix_of_skipSpace hclosed).trans hrest
    · exact ((hitems _).of_suffix ((skipSpace_suffix _).trans hrest)).bind fun _ _ h => h
  · next rest =>
    have hrest : rest <:+ '\x7b' :: rest := List.suffix_cons _ _
    split
    · next hclosed => exact (tail_suffix_of_skipSpace hclosed).trans hrest
    · exact ((hfields _).of_suffix ((skipSpace_suffix _).trans hrest)).bind fun _ _ h => h
  · split
    · next hword => exact readWord_suffix hword
    · exact readNumber_comesOf cs

include hvalue hitems in
theorem readItems_comesOf (cs : List Char) : ComesOf cs (readItems (steps + 1) cs) := by
  unfold readItems
  refine (hvalue cs).bind fun v rest hrest => ?_
  dsimp only
  split
  · next hclosed => exact (tail_suffix_of_skipSpace hclosed).trans hrest
  · next hcomma =>
    have hmore := (skipSpace_suffix _).trans ((tail_suffix_of_skipSpace hcomma).trans hrest)
    exact ((hitems _).of_suffix hmore).bind fun _ _ h => h
  · trivial

include hvalue hfields in
theorem readFields_comesOf (cs : List Char) : ComesOf cs (readFields (steps + 1) cs) := by
  unfold readFields
  split
  · next cs =>
    have hname := (readString_comesOf ('"' :: cs) [] cs).of_suffix (List.suffix_cons '"' cs)
    refine hname.bind fun name rest hrest => ?_
    dsimp only
    split
    · next hcolon =>
      have hbehind := (skipSpace_suffix _).trans ((tail_suffix_of_skipSpace hcolon).trans hrest)
      refine ((hvalue _).of_suffix hbehind).bind fun v rest hrest => ?_
      dsimp only
      split
      · next hclosed => exact (tail_suffix_of_skipSpace hclosed).trans hrest
      · next hcomma =>
        have hmore := (skipSpace_suffix _).trans ((tail_suffix_of_skipSpace hcomma).trans hrest)
        exact ((hfields _).of_suffix hmore).bind fun _ _ h => h
      · trivial
    · trivial
  · trivial

end

theorem reader_comesOf (steps : Nat) :
    (∀ cs, ComesOf cs (readValue steps cs)) ∧ (∀ cs, ComesOf cs (readItems steps cs)) ∧
      ∀ cs, ComesOf cs (readFields steps cs) := by
  induction steps with
  | zero => exact ⟨fun _ => trivial, fun _ => trivial, fun _ => trivial⟩
  | succ steps ih =>
    obtain ⟨hvalue, hitems, hfields⟩ := ih
    exact ⟨readValue_comesOf hitems hfields, readItems_comesOf hvalue hitems,
      readFields_comesOf hvalue hfields⟩

/-- An integer is too long only in a text in which too many digits stand in a row. -/
theorem hasLongNumber_of_read (h : read text = .error .integerTooLong) : HasLongNumber text := by
  have hvalue : ComesOf text (readValue (2 * text.length + 1) (skipSpace text)) :=
    ((reader_comesOf _).1 _).of_suffix (skipSpace_suffix text)
  unfold read at h
  split at h
  · cases h
  · cases hread : readValue (2 * text.length + 1) (skipSpace text) with
    | error e =>
      rw [hread] at h hvalue
      obtain rfl : e = .integerTooLong := Except.error.inj h
      exact hvalue
    | ok found =>
      rw [hread] at h
      dsimp only [bind, Except.bind] at h
      split at h <;> cases h

/-- An integer that is all of a text is too long as soon as it has too many digits. -/
theorem read_of_long {c : Char} {cs : List Char} (hdigits : ∀ d ∈ c :: cs, d.isDigit = true)
    (hzero : c ≠ '0') (hlong : digitLimit < (c :: cs).length) :
    read (c :: cs) = .error .integerTooLong := by
  have hc : c.isDigit = true := hdigits c List.mem_cons_self
  have hne {d : Char} (hd : d.isDigit = false) : c ≠ d := (ne_of_isDigit hc hd).symm
  have hend : ∀ d ∈ ([] : List Char).head?, d.isDigit = false := by simp
  obtain ⟨htake, hdrop⟩ := span_digits hdigits hend
  rw [List.append_nil] at htake hdrop
  have hwhole : wholeDigits (c :: cs) = (c :: cs, []) := by
    unfold wholeDigits
    split
    · next hcons => exact absurd (List.cons.inj hcons).1 hzero
    · rw [htake, hdrop]
  have hsign : c ≠ '-' := hne (by decide)
  have hread : ∀ n, readValue (n + 1) (c :: cs) = .error .integerTooLong := by
    intro n
    rw [readValue_number (hne (by decide)) (hne (by decide)) (hne (by decide)) (readWord_digit hc)]
    simpa [readNumber, hsign, hwhole, fractionDigits, exponentPart] using hlong
  have hstart : StartsValue (c :: cs) := startsValue_digit hc
  obtain ⟨d, ds, hcons, hspace, -, hmark⟩ := hstart
  obtain ⟨rfl, rfl⟩ := List.cons.inj hcons
  unfold read
  split
  · next hbom => exact absurd (List.cons.inj hbom).1 hmark
  · rw [skipSpace_cons hspace, hread]
    rfl

end PasteRules.Json
