/-! Replacement templates: text with references to the match, to what stands around it, and to its
groups. -/
namespace PasteRules.Template

/-- A part of a template. -/
inductive Part where
  | literal (text : List Char)
  | group (number : Nat)
  | named (name : String)
  | whole
  | before
  | after
  deriving DecidableEq, Repr

def Part.isSome (p : Part) : Bool := p != .literal []

def digitValue (c : Char) : Nat := c.toNat - '0'.toNat

/-- One or two digits behind a dollar sign, given the number of groups. Two digits are one reference
if there is such a group; otherwise the first alone may be one, and the second is text. -/
def resolveDigits (groups : Nat) (first : Char) (second : Option Char) : Option (List Part) :=
  let one : Option (List Part) :=
    let n := digitValue first
    if 1 ≤ n ∧ n ≤ groups then some [.group n, .literal second.toList] else none
  match second with
  | some d =>
    let n := digitValue first * 10 + digitValue d
    if 1 ≤ n ∧ n ≤ groups then some [.group n] else one
  | none => one

end PasteRules.Template
