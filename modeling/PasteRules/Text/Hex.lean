/-! Hexadecimal digits in lower case. -/
namespace PasteRules.Text

/-- Hexadecimal digits in lower case, filled up with zeros to a least width. -/
def hexPadded (width n : Nat) : List Char :=
  let digits := Nat.toDigits 16 n
  List.replicate (width - digits.length) '0' ++ digits

def hexDigitValue (c : Char) : Nat := if c.isDigit then c.toNat - 48 else c.toNat - 87

def hexNumber (ds : List Char) : Nat := ds.foldl (fun n c => n * 16 + hexDigitValue c) 0

theorem hexDigitValue_digitChar : ∀ d < 16, hexDigitValue d.digitChar = d := by decide

theorem hexNumber_concat (ds : List Char) (c : Char) :
    hexNumber (ds ++ [c]) = hexNumber ds * 16 + hexDigitValue c := by
  simp [hexNumber, List.foldl_append]

theorem hexNumber_toDigits (n : Nat) : hexNumber (Nat.toDigits 16 n) = n := by
  induction n using Nat.strongRecOn with
  | ind n ih =>
    rw [Nat.toDigits_eq_if (by decide)]
    split
    · rename_i h
      simp [hexNumber, hexDigitValue_digitChar n h]
    · rw [hexNumber_concat, ih (n / 16) (by omega), hexDigitValue_digitChar _ (by omega)]
      omega

theorem hexNumber_zeros (k : Nat) (ds : List Char) :
    hexNumber (List.replicate k '0' ++ ds) = hexNumber ds := by
  induction k with
  | zero => rfl
  | succ k ih => simpa [hexNumber, List.replicate_succ, hexDigitValue] using ih

/-- The digits read back as their number, whatever the width. -/
theorem hexNumber_hexPadded (width n : Nat) : hexNumber (hexPadded width n) = n := by
  rw [hexPadded, hexNumber_zeros, hexNumber_toDigits]

end PasteRules.Text
