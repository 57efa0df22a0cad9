import Mathlib.Data.List.Basic
import PasteRules.Json.Reader
import PasteRules.Json.Writer

/-! Strings and integers read back as they were written, whatever stands behind them that may stand
behind a value. -/
namespace PasteRules.Json

section

variable {start acc rest : List Char} {c : Char}

theorem readString_close :
    readString start acc ('"' :: rest) = .ok (String.ofList acc.reverse, rest) := by
  rw [readString]

theorem readString_plain (hquote : c ≠ '"') (hslash : c ≠ '\\') (h : 0x20 ≤ c.toNat) :
    readString start acc (c :: rest) = readString start (c :: acc) rest := by
  rw [readString]
  · rw [if_neg (by omega)]
  all_goals simp_all

theorem readString_escape {x : Char} (hu : c ≠ 'u') (h : shortEscape? c = some x) :
    readString start acc ('\\' :: c :: rest) = readString start (x :: acc) rest := by
  rw [readString]
  · simp [h]
  all_goals simp_all

/-- A number that is no first half of a pair stands for itself, whatever comes next. -/
theorem readString_code {a b c d : Char} {n : Nat} (h : hexQuad? a b c d = some n)
    (hn : isHighHalf n = false) (hrest : rest ≠ []) :
    readString start acc ('\\' :: 'u' :: a :: b :: c :: d :: rest) =
      readString start (charOf n :: acc) rest := by
  obtain ⟨next, tail, rfl⟩ := List.exists_cons_of_ne_nil hrest
  by_cases hpair : ∃ e f g i tail', next = '\\' ∧ tail = 'u' :: e :: f :: g :: i :: tail'
  · obtain ⟨e, f, g, i, tail', rfl, rfl⟩ := hpair
    rw [readString]
    simp [h, hn]
  · rw [readString]
    · simp [h]
    · intro e f g i tail' hnext htail
      exact hpair ⟨e, f, g, i, tail', hnext, htail⟩

theorem hexQuad?_hexPadded : ∀ n < 0x20,
    (match Text.hexPadded 4 n with
      | [a, b, c, d] => hexQuad? a b c d
      | _ => none) = some n := by decide +kernel

theorem charOf_toNat (c : Char) : charOf c.toNat = c := by
  have hvalid : c.toNat.isValidChar := c.valid
  rw [charOf, if_pos hvalid, Char.ofNat_toNat]

theorem readString_control (h : c.toNat < 0x20) (hrest : rest ≠ []) :
    readString start acc ('\\' :: 'u' :: Text.hexPadded 4 c.toNat ++ rest) =
      readString start (c :: acc) rest := by
  have hquad := hexQuad?_hexPadded c.toNat h
  split at hquad
  · next a b c' d hpadded =>
    have hlow : isHighHalf c.toNat = false := by
      simp only [isHighHalf, Bool.and_eq_false_iff, decide_eq_false_iff_not]
      omega
    rw [hpadded]
    exact (readString_code hquad hlow hrest).trans (by rw [charOf_toNat])
  · cases hquad

/-- A character is written as a short escape, by its code, or as it is. -/
theorem writtenChar_cases (c : Char) :
    (∃ x, writtenChar c = ['\\', x] ∧ shortEscape? x = some c ∧ x ≠ 'u' ∧ 0x20 ≤ x.toNat) ∨
      (writtenChar c = '\\' :: 'u' :: Text.hexPadded 4 c.toNat ∧ c.toNat < 0x20) ∨
      (writtenChar c = [c] ∧ c ≠ '"' ∧ c ≠ '\\' ∧ 0x20 ≤ c.toNat) := by
  by_cases hshort : c ∈ ['"', '\\', '\n', '\r', '\t', '\x08', '\x0c']
  · refine .inl ?_
    simp only [List.mem_cons, List.not_mem_nil, or_false] at hshort
    rcases hshort with rfl | rfl | rfl | rfl | rfl | rfl | rfl
    · exact ⟨'"', rfl, by decide⟩
    · exact ⟨'\\', rfl, by decide⟩
    · exact ⟨'n', rfl, by decide⟩
    · exact ⟨'r', rfl, by decide⟩
    · exact ⟨'t', rfl, by decide⟩
    · exact ⟨'b', rfl, by decide⟩
    · exact ⟨'f', rfl, by decide⟩
  · simp only [List.mem_cons, List.not_mem_nil, or_false, not_or] at hshort
    obtain ⟨hquote, hslash, hn, hr, ht, hb, hf⟩ := hshort
    refine .inr ?_
    simp only [writtenChar, hquote, hslash, hn, hr, ht, hb, hf, if_false]
    by_cases hcontrol : c.toNat < 0x20
    · exact .inl ⟨if_pos hcontrol, hcontrol⟩
    · exact .inr ⟨if_neg hcontrol, hquote, hslash, by omega⟩

theorem readString_writtenChar (hrest : rest ≠ []) :
    readString start acc (writtenChar c ++ rest) = readString start (c :: acc) rest := by
  rcases writtenChar_cases c with ⟨x, hwritten, hescape, hu, -⟩ | ⟨hwritten, hcode⟩ |
    ⟨hwritten, hquote, hslash, hplain⟩
  · rw [hwritten]
    exact readString_escape hu hescape
  · rw [hwritten]
    exact readString_control hcode hrest
  · rw [hwritten]
    exact readString_plain hquote hslash hplain

theorem readString_written (cs : List Char) :
    readString start acc (cs.flatMap writtenChar ++ '"' :: rest) =
      .ok (String.ofList (acc.reverse ++ cs), rest) := by
  induction cs generalizing acc with
  | nil => rw [List.append_nil]; exact readString_close
  | cons c cs ih =>
    rw [List.flatMap_cons, List.append_assoc, readString_writtenChar (by simp), ih]
    simp

end

/-- What may stand behind a value: nothing, a comma, or a line break. -/
def EndsValue (cs : List Char) : Prop := ∀ c ∈ cs.head?, c = ',' ∨ c = '\n'

section

variable {rest : List Char}

theorem digitsValue_toDigits (n : Nat) : digitsValue (Nat.toDigits 10 n) = n := by
  unfold digitsValue
  simpa [Nat.ofDigitChars_eq_foldl, Nat.mul_comm] using Nat.ofDigitChars_ten_toDigits (n := n)

theorem digitChar_ne_zero : ∀ d < 10, d ≠ 0 → d.digitChar ≠ '0' := by decide

/-- Only the digits of zero begin with a zero. -/
theorem toDigits_head_ne_zero {n : Nat} (h : n ≠ 0) {c : Char} {cs : List Char}
    (hdigits : Nat.toDigits 10 n = c :: cs) : c ≠ '0' := by
  induction n using Nat.strongRecOn generalizing cs with
  | ind n ih =>
    rw [Nat.toDigits_eq_if (by decide)] at hdigits
    split at hdigits
    · next hsmall =>
      obtain ⟨rfl, -⟩ := List.cons.inj hdigits
      exact digitChar_ne_zero n hsmall h
    · cases hfront : Nat.toDigits 10 (n / 10) with
      | nil => exact absurd hfront (by simp)
      | cons d ds =>
        rw [hfront, List.cons_append] at hdigits
        obtain ⟨rfl, -⟩ := List.cons.inj hdigits
        exact ih (n / 10) (by omega) (by omega) hfront

theorem EndsValue.not_isDigit (h : EndsValue rest) : ∀ c ∈ rest.head?, c.isDigit = false := by
  intro c hc
  rcases h c hc with rfl | rfl <;> decide

theorem EndsValue.fractionDigits (h : EndsValue rest) : fractionDigits rest = ([], rest) := by
  unfold Json.fractionDigits
  split
  · next rest => rcases h '.' rfl with h | h <;> cases h
  · rfl

theorem EndsValue.exponentPart (h : EndsValue rest) : exponentPart rest = (none, rest) := by
  unfold Json.exponentPart
  split
  · rfl
  · next e rest =>
    rw [if_neg]
    rintro (rfl | rfl)
    · rcases h 'e' rfl with h | h <;> cases h
    · rcases h 'E' rfl with h | h <;> cases h

theorem span_digits {ds : List Char} (hds : ∀ c ∈ ds, c.isDigit = true)
    (h : ∀ c ∈ rest.head?, c.isDigit = false) :
    (ds ++ rest).takeWhile Char.isDigit = ds ∧ (ds ++ rest).dropWhile Char.isDigit = rest := by
  induction ds with
  | nil =>
    cases rest with
    | nil => exact ⟨rfl, rfl⟩
    | cons c rest => simp [h c rfl]
  | cons d ds ih =>
    obtain ⟨htake, hdrop⟩ := ih fun c hc => hds c (List.mem_cons_of_mem _ hc)
    simp [hds d List.mem_cons_self, htake, hdrop]

theorem isDigit_of_mem (n : Nat) : ∀ c ∈ Nat.toDigits 10 n, c.isDigit = true :=
  fun _ hc => Nat.isDigit_of_mem_toDigits (Nat.succ_pos 9) (Nat.le_refl 10) hc

theorem exists_toDigits (n : Nat) :
    ∃ d ds, Nat.toDigits 10 n = d :: ds ∧ d.isDigit = true := by
  obtain ⟨d, ds, hdigits⟩ : ∃ d ds, Nat.toDigits 10 n = d :: ds :=
    List.exists_cons_of_ne_nil (by simp)
  exact ⟨d, ds, hdigits, isDigit_of_mem n d (hdigits ▸ List.mem_cons_self)⟩

theorem wholeDigits_toDigits (h : EndsValue rest) (n : Nat) :
    wholeDigits (Nat.toDigits 10 n ++ rest) = (Nat.toDigits 10 n, rest) := by
  by_cases hn : n = 0
  · subst hn
    rfl
  · obtain ⟨htake, hdrop⟩ := span_digits (isDigit_of_mem n) h.not_isDigit
    unfold wholeDigits
    split
    · next rest' hzero =>
      obtain ⟨d, ds, hdigits, -⟩ := exists_toDigits n
      rw [hdigits, List.cons_append] at hzero
      exact absurd (List.cons.inj hzero).1 (toDigits_head_ne_zero hn hdigits)
    · rw [htake, hdrop]

theorem readNumber_negative (h : EndsValue rest) {n : Nat}
    (hn : (Nat.toDigits 10 n).length ≤ digitLimit) :
    readNumber ('-' :: Nat.toDigits 10 n ++ rest) = .ok (.int (-n), rest) := by
  obtain ⟨d, ds, hdigits, -⟩ := exists_toDigits n
  have hwhole := wholeDigits_toDigits h n
  have hvalue := digitsValue_toDigits n
  rw [hdigits, List.cons_append] at hwhole
  rw [hdigits] at hn hvalue ⊢
  simpa [readNumber, hwhole, h.fractionDigits, h.exponentPart, hvalue] using hn

theorem readNumber_natural (h : EndsValue rest) {n : Nat}
    (hn : (Nat.toDigits 10 n).length ≤ digitLimit) :
    readNumber (Nat.toDigits 10 n ++ rest) = .ok (.int n, rest) := by
  obtain ⟨d, ds, hdigits, hd⟩ := exists_toDigits n
  have hsign : d ≠ '-' := by
    rintro rfl
    cases hd
  have hwhole := wholeDigits_toDigits h n
  have hvalue := digitsValue_toDigits n
  rw [hdigits, List.cons_append] at hwhole
  rw [hdigits] at hn hvalue ⊢
  simpa [readNumber, hsign, hwhole, h.fractionDigits, h.exponentPart, hvalue] using hn

def digitCount (n : Int) : Nat := (Nat.toDigits 10 n.natAbs).length

theorem toString_int (n : Int) :
    (toString n).toList = (if n < 0 then ['-'] else []) ++ Nat.toDigits 10 n.natAbs := by
  rw [Int.toString_eq_repr, Int.repr_eq_if]
  by_cases hneg : n < 0
  · have habs : (-n).toNat = n.natAbs := by omega
    rw [if_neg (by omega), if_pos hneg, habs, String.toList_append, Nat.toList_repr]
    rfl
  · have habs : n.toNat = n.natAbs := by omega
    rw [if_pos (by omega), if_neg hneg, habs, Nat.toList_repr]
    rfl

theorem readNumber_int (h : EndsValue rest) {n : Int} (hn : digitCount n ≤ digitLimit) :
    readNumber ((toString n).toList ++ rest) = .ok (.int n, rest) := by
  rw [toString_int]
  by_cases hneg : n < 0
  · have habs : -(n.natAbs : Int) = n := by omega
    rw [if_pos hneg]
    exact (readNumber_negative h hn).trans (by rw [habs])
  · have habs : (n.natAbs : Int) = n := by omega
    rw [if_neg hneg]
    exact (readNumber_natural h hn).trans (by rw [habs])

theorem afterWord?_append (word : String) (rest : List Char) :
    afterWord? word (word.toList ++ rest) = some rest := by
  simp [afterWord?, ← String.length_toList]

end
end PasteRules.Json
