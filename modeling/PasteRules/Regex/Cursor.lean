/-! A place in a text, seen as what comes before it and what comes after. -/
namespace PasteRules.Regex

/-- A place in a text: the characters before it, the nearest first, and those after it with their
number. -/
structure Cursor where
  before : List Char
  after : List Char
  left : Nat
  left_eq : left = after.length
  deriving DecidableEq, Repr

namespace Cursor

def ofText (text : List Char) : Cursor := ⟨[], text, text.length, rfl⟩

def text (c : Cursor) : List Char := c.before.reverse ++ c.after

def next? (c : Cursor) : Option (Char × Cursor) :=
  match c with
  | ⟨_, [], _, _⟩ => none
  | ⟨before, x :: rest, left, h⟩ => some (x, ⟨x :: before, rest, left - 1, by simp [h]⟩)

/-- The place some characters back, if there are so many. -/
def back? (c : Cursor) : Nat → Option Cursor
  | 0 => some c
  | n + 1 =>
    match c with
    | ⟨[], _, _, _⟩ => none
    | ⟨x :: before, after, left, h⟩ => back? ⟨before, x :: after, left + 1, by simp [h]⟩ n

def slice (start stop : Cursor) : List Char := start.after.take (start.left - stop.left)

theorem left_lt_of_next? {c d : Cursor} {x : Char} (h : c.next? = some (x, d)) :
    d.left < c.left := by
  obtain ⟨before, after, left, hl⟩ := c
  cases after with
  | nil => simp [next?] at h
  | cons y rest =>
    simp only [next?, Option.some.injEq, Prod.mk.injEq] at h
    obtain ⟨-, rfl⟩ := h
    simp only [List.length_cons] at hl
    simp only
    omega

end Cursor
end PasteRules.Regex
