/-! Binary floating-point numbers of 64 bits as exact values: a mantissa below 2 ^ 53 times a power
of two, rounded from decimals to the nearest number, a half to the even mantissa. -/
namespace PasteRules.Number

/-- A number of the format. A finite one has the value `mantissa * 2 ^ exponent`, negated if asked.
-/
inductive Binary64 where
  | nan
  | infinite (negative : Bool)
  | finite (negative : Bool) (mantissa : Nat) (exponent : Int)
  deriving DecidableEq, Repr, Inhabited

namespace Binary64

def leastExponent : Int := -1074

def largestExponent : Int := 971

/-- The least mantissa of a number with all its digits; mantissas stay below its double. -/
def leastNormal : Nat := Nat.pow 2 52

/-- The quotient of two numbers rounded to the nearest integer, a half to the even one. -/
def roundDiv (num den : Nat) : Nat :=
  let q := num / den
  let r := num % den
  if 2 * r < den then q else if den < 2 * r then q + 1 else q + q % 2

/-- The quotient `num / (den * 2 ^ e)` rounded to an integer. -/
def roundScaled (num den : Nat) (e : Int) : Nat :=
  if 0 ≤ e then roundDiv num (den * Nat.pow 2 e.toNat)
  else roundDiv (num * Nat.pow 2 (-e).toNat) den

/-- The largest `k` with `2 ^ k ≤ num / den`, for positive arguments. -/
def floorLog2 (num den : Nat) : Int :=
  let k : Int := (num.log2 : Int) - den.log2
  let reached :=
    if 0 ≤ k then den * Nat.pow 2 k.toNat ≤ num else den ≤ num * Nat.pow 2 (-k).toNat
  if reached then k else k - 1

/-- The number nearest to a quotient of naturals. -/
def ofQuotient (negative : Bool) (num den : Nat) : Binary64 :=
  if num = 0 then .finite negative 0 leastExponent
  else
    let e := max leastExponent (floorLog2 num den - 52)
    let m := roundScaled num den e
    let (m, e) := if m = 2 * leastNormal then (leastNormal, e + 1) else (m, e)
    if largestExponent < e then .infinite negative else .finite negative m e

/-- The number nearest to `digits * 10 ^ exponent`. Exponents beyond the format's reach are settled
without computing the power of ten. -/
def ofDecimal (negative : Bool) (digits : Nat) (exponent : Int) : Binary64 :=
  if digits = 0 then .finite negative 0 leastExponent
  else
    let size : Int := (Nat.toDigits 10 digits).length + exponent
    if 310 < size then .infinite negative
    else if size < -330 then .finite negative 0 leastExponent
    else if 0 ≤ exponent then ofQuotient negative (digits * Nat.pow 10 exponent.toNat) 1
    else ofQuotient negative digits (Nat.pow 10 (-exponent).toNat)

def signed (negative : Bool) (mantissa : Nat) : Int := if negative then -mantissa else mantissa

/-- How a number compares with an integer, if it is comparable at all. -/
def compareInt? (x : Binary64) (n : Int) : Option Ordering :=
  match x with
  | .nan => none
  | .infinite negative => some (if negative then .lt else .gt)
  | .finite negative m e =>
    if 0 ≤ e then some (compare (signed negative m * Nat.pow 2 e.toNat) n)
    else some (compare (signed negative m) (n * Nat.pow 2 (-e).toNat))

/-- Equality of values: the two zeros agree, and NaN differs from everything. -/
def sameValue (x y : Binary64) : Bool :=
  match x, y with
  | .nan, _ => false
  | .finite _ 0 _, .finite _ 0 _ => true
  | _, _ => x == y

/-- Truth of a number: all but the zeros. -/
def isTruthy : Binary64 → Bool
  | .finite _ m _ => m != 0
  | _ => true

end Binary64
end PasteRules.Number
