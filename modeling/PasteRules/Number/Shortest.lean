import PasteRules.Number.Binary64

/-! The shortest decimal text of a number: the fewest digits that read back as it, and of those the
digits nearest to it. -/
namespace PasteRules.Number

/-- A positive quotient of naturals. -/
structure Quotient where
  num : Nat
  den : Nat

def Quotient.scaled (n : Nat) (e : Int) : Quotient :=
  if 0 ≤ e then ⟨n * Nat.pow 2 e.toNat, 1⟩ else ⟨n, Nat.pow 2 (-e).toNat⟩

def Quotient.shift (q : Quotient) (k : Int) : Quotient :=
  if 0 ≤ k then ⟨q.num, q.den * Nat.pow 10 k.toNat⟩
  else ⟨q.num * Nat.pow 10 (-k).toNat, q.den⟩

/-- The largest `k` with `10 ^ k ≤ q`: a guess from the binary logarithm, set right by one. -/
def Quotient.floorLog10 (q : Quotient) : Int :=
  let guess := Int.fdiv (Binary64.floorLog2 q.num q.den * 30103) 100000
  let atLeast (k : Int) : Bool := let r := q.shift k; r.den ≤ r.num
  if atLeast (guess + 1) then guess + 1 else if atLeast guess then guess else guess - 1

/-- The interval of reals that round to `mantissa * 2 ^ exponent`: its middle and ends in units of a
quarter of the last place, and whether the ends belong to it. -/
structure RoundingInterval where
  low : Nat
  middle : Nat
  high : Nat
  unit : Int
  closed : Bool

/-- Below a power of two the numbers lie twice as close. -/
def roundingInterval (mantissa : Nat) (exponent : Int) : RoundingInterval where
  low :=
    if mantissa = Binary64.leastNormal ∧ Binary64.leastExponent < exponent then 4 * mantissa - 1
    else 4 * mantissa - 2
  middle := 4 * mantissa
  high := 4 * mantissa + 2
  unit := exponent - 2
  closed := mantissa % 2 = 0

/-- Whether `digits * 10 ^ k` rounds to the interval's number. -/
def RoundingInterval.contains (i : RoundingInterval) (digits : Nat) (k : Int) : Bool :=
  let low := (Quotient.scaled i.low i.unit).shift k
  let high := (Quotient.scaled i.high i.unit).shift k
  if i.closed then low.num ≤ digits * low.den && digits * high.den ≤ high.num
  else low.num < digits * low.den && digits * high.den < high.num

/-- The nearer of the two neighbours on the grid `10 ^ k` that lie in the interval, a tie going to
the even one. -/
def RoundingInterval.onGrid? (i : RoundingInterval) (k : Int) : Option Nat :=
  let q := (Quotient.scaled i.middle i.unit).shift k
  let below := q.num / q.den
  let twice := 2 * (q.num % q.den)
  let nearer := if twice < q.den then below
    else if q.den < twice then below + 1 else below + below % 2
  let other := if nearer = below then below + 1 else below
  if i.contains nearer k then some nearer
  else if i.contains other k then some other
  else none

/-- The first grid with a hit, from one digit on. -/
def RoundingInterval.firstGrid (i : RoundingInterval) (top : Int) : Nat → Nat → Nat × Int
  | 0, _ => (0, 0)
  | steps + 1, count =>
    let k := top - count + 1
    match i.onGrid? k with
    | some d => (d, k)
    | none => i.firstGrid top steps (count + 1)

/-- Digits and the power of ten they count, for a positive mantissa; seventeen digits always do. -/
def shortestDigits (mantissa : Nat) (exponent : Int) : Nat × Int :=
  let top := (Quotient.scaled mantissa exponent).floorLog10
  (roundingInterval mantissa exponent).firstGrid top 17 1

/-- Positional notation for decimal exponents from -4 to 15, with at least one digit behind the
point, and scientific notation with a signed exponent of at least two digits otherwise. -/
def decimalText (digits : Nat) (k : Int) : String :=
  let all := Nat.toDigits 10 digits
  let top : Int := k + all.length - 1
  let kept := (all.reverse.dropWhile (· == '0')).reverse
  let ds := if kept.isEmpty then ['0'] else kept
  if -4 ≤ top ∧ top < 16 then
    if top < 0 then
      String.ofList ('0' :: '.' :: List.replicate (-top - 1).toNat '0' ++ ds)
    else
      let whole := top.toNat + 1
      let front := ds.take whole ++ List.replicate (whole - ds.length) '0'
      let back := ds.drop whole
      String.ofList (front ++ '.' :: (if back.isEmpty then ['0'] else back))
  else
    let exponent := Nat.toDigits 10 top.natAbs
    let exponent := List.replicate (2 - exponent.length) '0' ++ exponent
    let tail := ds.drop 1
    String.ofList (ds.take 1 ++ (if tail.isEmpty then [] else '.' :: tail) ++
      'e' :: (if top < 0 then '-' else '+') :: exponent)

def Binary64.text : Binary64 → String
  | .nan => "nan"
  | .infinite negative => if negative then "-inf" else "inf"
  | .finite negative m e =>
    let body := if m = 0 then "0.0" else let (d, k) := shortestDigits m e; decimalText d k
    if negative then "-" ++ body else body

end PasteRules.Number
