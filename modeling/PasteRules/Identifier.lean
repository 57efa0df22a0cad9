import Std.Data.String.ToInt
import PasteRules.Text.Hex

/-! Identifiers of patterns, replacers and links, and the supplies they come from. -/
namespace PasteRules

/-- An identifier: what it is for, a hyphen, and a suffix that tells it from others. -/
def identifier (stem suffix : String) : String := stem ++ "-" ++ suffix

/-- A supply of identifiers, as a state that each draw changes. It never hands out a taken one. -/
class IdSupply (σ : Type) where
  draw : (stem : String) → (taken : List String) → σ → String × σ
  draw_not_mem : ∀ stem taken s, (draw stem taken s).1 ∉ taken
  draw_form : ∀ stem taken s, ∃ suffix, (draw stem taken s).1 = identifier stem suffix

namespace Identifier

def patternStem : String := "p"

def replacerStem : String := "r"

def linkStem : String := "l"

/-- The first number from a given one on whose identifier is not taken. `taken` loses each number
that is passed, so there are at most as many steps as taken identifiers. -/
def firstFree (name : Nat → String) (taken : List String) (n : Nat) : Nat :=
  if name n ∈ taken then firstFree name (taken.erase (name n)) (n + 1) else n
termination_by taken.length
decreasing_by
  rename_i h
  have := List.length_pos_of_mem h
  rw [List.length_erase_of_mem h]
  omega

/-- With a name of its own for each number, the number found has a free name. -/
theorem firstFree_not_mem {name : Nat → String} (inj : ∀ m n, name m = name n → m = n)
    (taken : List String) (n : Nat) : name (firstFree name taken n) ∉ taken ∧
      n ≤ firstFree name taken n := by
  fun_induction firstFree name taken n with
  | case1 taken n h ih =>
    refine ⟨fun hm => ih.1 ?_, by omega⟩
    refine (List.mem_erase_of_ne fun he => ?_).mpr hm
    have := inj _ _ he
    omega
  | case2 taken n h => exact ⟨h, Nat.le_refl n⟩

theorem identifier_inj {stem a b : String} (h : identifier stem a = identifier stem b) : a = b := by
  simpa [identifier, String.append_assoc] using h

/-- The identifier of the number some steps behind a start. -/
def counted (stem : String) (start : Int) (n : Nat) : String := identifier stem (start + n).repr

theorem counted_inj (stem : String) (start : Int) (m n : Nat)
    (h : counted stem start m = counted stem start n) : m = n := by
  have := Int.repr_inj.1 (identifier_inj h)
  omega

/-- The token of a number: 32 hexadecimal digits. -/
def token (n : Nat) : String := String.ofList (Text.hexPadded 32 n)

def tokened (stem : String) (n : Nat) : String := identifier stem (token n)

theorem tokened_inj (stem : String) (m n : Nat) (h : tokened stem m = tokened stem n) : m = n := by
  have := String.ofList_inj.1 (identifier_inj h)
  rw [← Text.hexNumber_hexPadded 32 m, this, Text.hexNumber_hexPadded]

end Identifier

/-- Suffixes that count up in decimal digits, one counter for all stems. -/
structure Counting where
  next : Int
  deriving DecidableEq, Repr

instance : IdSupply Counting where
  draw stem taken s :=
    let n := Identifier.firstFree (Identifier.counted stem s.next) taken 0
    (Identifier.counted stem s.next n, ⟨s.next + n + 1⟩)
  draw_not_mem stem taken s :=
    (Identifier.firstFree_not_mem (Identifier.counted_inj stem s.next) taken 0).1
  draw_form _ _ _ := ⟨_, rfl⟩

/-- Suffixes of 32 hexadecimal digits that count up from a start, which may be drawn at random. -/
structure Tokens where
  next : Nat
  deriving DecidableEq, Repr

instance : IdSupply Tokens where
  draw stem taken s :=
    let n := Identifier.firstFree (Identifier.tokened stem) taken s.next
    (Identifier.tokened stem n, ⟨n + 1⟩)
  draw_not_mem stem taken s :=
    (Identifier.firstFree_not_mem (Identifier.tokened_inj stem) taken s.next).1
  draw_form _ _ _ := ⟨_, rfl⟩

end PasteRules
