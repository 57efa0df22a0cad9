import PasteRules.Regex.CharTest

/-! The parts of a pattern and the widths of the texts they match. -/
namespace PasteRules.Regex

/-- Places between characters. -/
inductive Anchor where
  | textStart
  | lineStart
  | textEnd
  | lineEnd
  | finalLineEnd
  | wordEdge (ascii : Bool)
  | noWordEdge (ascii : Bool)
  deriving DecidableEq, Repr

/-- Which repetitions are tried first, and whether any others are tried at all. -/
inductive Greed where
  | greedy
  | lazy
  | possessive
  deriving DecidableEq, Repr

/-- The least and the largest length of the texts a part matches. -/
structure Width where
  least : Nat
  most : Nat
  deriving DecidableEq, Repr

/-- The side of a look-around: ahead, or behind by a width. -/
inductive Side where
  | ahead
  | behind (width : Width)
  deriving DecidableEq, Repr

/-- A part of a pattern. Flags are already worked into the tests and anchors. -/
inductive Node where
  | empty
  | char (test : CharTest)
  | anchor (place : Anchor)
  | seq (first second : Node)
  | alt (first second : Node)
  | group (number : Nat) (body : Node)
  | loop (greed : Greed) (least : Nat) (most : Option Nat) (body : Node)
  | look (side : Side) (negated : Bool) (body : Node)
  | atomic (body : Node)
  | backref (number : Nat) (folding : Folding)
  | cond (number : Nat) (yes no : Node)
  deriving DecidableEq, Repr

/-- Lengths are not counted beyond this bound. -/
def Width.bound : Nat := Nat.pow 2 64

def Width.capped (w : Width) : Width := ⟨min w.least bound, min w.most bound⟩

namespace Node

def ofList : List Node → Node
  | [] => .empty
  | [n] => n
  | n :: rest => .seq n (ofList rest)

/-- The alternatives of a non-empty list, given by its first and the others. -/
def ofAlternatives : Node → List Node → Node
  | n, [] => n
  | n, m :: rest => .alt n (ofAlternatives m rest)

/-- The width of a part, given the widths of the groups it may refer to. -/
def width (groups : Nat → Width) : Node → Width
  | .empty => ⟨0, 0⟩
  | .char _ => ⟨1, 1⟩
  | .anchor _ => ⟨0, 0⟩
  | .seq a b =>
    let v := a.width groups
    let w := b.width groups
    Width.capped ⟨v.least + w.least, v.most + w.most⟩
  | .alt a b =>
    let v := a.width groups
    let w := b.width groups
    ⟨min v.least w.least, max v.most w.most⟩
  | .group _ body => body.width groups
  | .loop _ least most body =>
    let w := body.width groups
    let top := match most with
      | some n => w.most * n
      | none => if w.most = 0 then 0 else Width.bound
    Width.capped ⟨w.least * least, top⟩
  | .look _ _ _ => ⟨0, 0⟩
  | .atomic body => body.width groups
  | .backref number _ => groups number
  | .cond _ yes no =>
    let v := yes.width groups
    let w := no.width groups
    ⟨min v.least w.least, max v.most w.most⟩

end Node
end PasteRules.Regex
