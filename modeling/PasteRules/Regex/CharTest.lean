import PasteRules.Unicode.Alphanumeric
import PasteRules.Unicode.Digit
import PasteRules.Unicode.Blank
import PasteRules.Unicode.Case

/-! Tests on one character: literals, classes and sets, with or without regard to case. Characters
are compared by code point, so a pattern may name code points that no text holds. -/
namespace PasteRules.Regex

/-- Classes of characters that a pattern names by one letter. -/
inductive CharClass where
  | digit
  | space
  | word
  deriving DecidableEq, Repr

/-- Membership in a class, among all characters or the ASCII ones alone. -/
def CharClass.contains (ascii : Bool) (code : Nat) : CharClass → Bool
  | .digit => if ascii then 48 ≤ code && code ≤ 57 else Unicode.digitFlips.contains code
  | .space =>
    if ascii then code == 32 || (9 ≤ code && code ≤ 13) else Unicode.blankFlips.contains code
  | .word =>
    code == 95 ||
      if ascii then
        (48 ≤ code && code ≤ 57) || (65 ≤ code && code ≤ 90) || (97 ≤ code && code ≤ 122)
      else Unicode.alphanumericFlips.contains code

/-- How a test treats letters that differ in case alone. -/
inductive Folding where
  | exact
  | ascii
  | unicode
  deriving DecidableEq, Repr

namespace Folding

/-- The code point that stands for all case forms of another. -/
def fold : Folding → Nat → Nat
  | .exact, code => code
  | .ascii, code => if 65 ≤ code && code ≤ 90 then code + 32 else code
  | .unicode, code => Unicode.lower code

/-- Whether folding has anything to do for a code point. -/
def isCased : Folding → Nat → Bool
  | .exact, _ => false
  | .ascii, code => (65 ≤ code && code ≤ 90) || (97 ≤ code && code ≤ 122)
  | .unicode, code => Unicode.isCased code

/-- Whether folding has anything to do for some code point of an interval. -/
def meetsCased : Folding → Nat → Nat → Bool
  | .exact, _, _ => false
  | .ascii, lo, hi => (lo ≤ 90 && 65 ≤ hi) || (lo ≤ 122 && 97 ≤ hi)
  | .unicode, lo, hi => Unicode.meetsCased lo hi

/-- Folded code points that count as equal to a folded one besides itself. -/
def siblings : Folding → Nat → List Nat
  | .unicode, code => Unicode.siblings code
  | _, _ => []

/-- All code points that fold to a given one. -/
def sources : Folding → Nat → List Nat
  | .exact, code => [code]
  | .ascii, code =>
    (if 65 ≤ code && code ≤ 90 then [] else [code]) ++
      (if 97 ≤ code && code ≤ 122 then [code - 32] else [])
  | .unicode, code => Unicode.lowerSources code

end Folding

/-- A part of a set: one code point, an interval, or a class or its complement. -/
inductive CharItem where
  | code (n : Nat)
  | range (lo hi : Nat)
  | kind (k : CharClass) (negated : Bool)
  deriving DecidableEq, Repr

/-- The last code point of the basic plane, where folding of sets works by listing. -/
def lastBasic : Nat := 0xffff

namespace CharItem

def contains (ascii : Bool) (code : Nat) : CharItem → Bool
  | .code n => code == n
  | .range lo hi => lo ≤ code && code ≤ hi
  | .kind k negated => k.contains ascii code != negated

/-- Membership of a folded code point in the folded part. Beyond the basic plane a code point stands
for itself alone, and an interval holds what lies in it in either case. -/
def containsFolded (folding : Folding) (ascii : Bool) (code : Nat) : CharItem → Bool
  | .code n =>
    let folded := folding.fold n
    if folded ≤ lastBasic then code == folded || (folding.siblings folded).contains code
    else code == n
  | .range lo hi =>
    let basic := (code :: folding.siblings code).flatMap folding.sources
    basic.any (fun n => lo ≤ n && n ≤ min hi lastBasic) ||
      (lastBasic < hi && ((lo ≤ code && code ≤ hi) ||
        (lo ≤ Unicode.upper code && Unicode.upper code ≤ hi)))
  | .kind k negated => k.contains ascii code != negated

def isCased (folding : Folding) : CharItem → Bool
  | .code n => folding.isCased n || lastBasic < folding.fold n
  | .range lo hi => folding.meetsCased lo hi || lastBasic < hi
  | .kind _ _ => false

end CharItem

/-- A test on one character. -/
inductive CharTest where
  | notNewline
  | every
  | literal (code : Nat) (negated : Bool) (folding : Folding)
  | set (negated : Bool) (items : List CharItem) (ascii : Bool) (folding : Folding)
  deriving DecidableEq, Repr

namespace CharTest

/-- Whether two literals agree under folding. -/
def sameLiteral (folding : Folding) (literal code : Nat) : Bool :=
  if folding.isCased literal then
    let folded := folding.fold literal
    let seen := folding.fold code
    seen == folded || (folding.siblings folded).contains seen
  else code == literal

/-- Membership in a set. Folding counts only if some part calls for it. -/
def inSet (items : List CharItem) (ascii : Bool) (folding : Folding) (code : Nat) : Bool :=
  if folding != .exact && items.any (·.isCased folding) then
    items.any (·.containsFolded folding ascii (folding.fold code))
  else items.any (·.contains ascii code)

def accepts (c : Char) : CharTest → Bool
  | .notNewline => c != '\n'
  | .every => true
  | .literal code negated folding => sameLiteral folding code c.toNat != negated
  | .set negated items ascii folding => inSet items ascii folding c.toNat != negated

end CharTest
end PasteRules.Regex
