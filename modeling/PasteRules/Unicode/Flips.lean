/-! Sets of code points, kept as the increasing list of points where membership changes. -/
namespace PasteRules.Unicode

/-- A set of code points: outside before the first point, inside up to the second, and so on. -/
structure Flips where
  points : Array Nat

namespace Flips

/-- Halves the interval `[lo, hi)` of places until none is left, keeping every point before `lo` at
most `code` and every point from `hi` on above it. -/
def bisect (points : Array Nat) (code : Nat) : Nat → Nat → Nat → Nat
  | 0, lo, _ => lo
  | steps + 1, lo, hi =>
    if lo < hi then
      let mid := (lo + hi) / 2
      if points.getD mid 0 ≤ code then bisect points code steps (mid + 1) hi
      else bisect points code steps lo mid
    else lo

/-- How many points of change lie at or below a code point. -/
def countUpTo (s : Flips) (code : Nat) : Nat :=
  bisect s.points code (s.points.size.log2 + 1) 0 s.points.size

/-- Membership: an odd number of changes lies at or below the code point. -/
def contains (s : Flips) (code : Nat) : Bool := s.countUpTo code % 2 == 1

end Flips
end PasteRules.Unicode
