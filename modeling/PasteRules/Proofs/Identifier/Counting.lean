import Mathlib.Data.Finset.Card
import Mathlib.Order.Bounds.Basic
import PasteRules.Identifier

/-! Identifiers that count up. A draw tries one number after another and ends at the first whose
identifier is free, since every number that it passes has another of the taken identifiers. No two
draws from one supply give the same identifier, whatever their stems are: no digit is a hyphen, so
the number can be read off the end. -/
namespace PasteRules

namespace Identifier

variable {stem : String} {taken : List String} {next last : Int}

/-- Tries numbers from a counter on, a given count at most, until the identifier of one is free. -/
def search? (stem : String) (taken : List String) : Nat → Int → Option Int
  | 0, _ => none
  | tries + 1, next =>
    if identifier stem next.repr ∈ taken then search? stem taken tries (next + 1) else some next

def freeFrom (stem : String) (taken : List String) (next : Int) : Set Int :=
  {m | next ≤ m ∧ identifier stem m.repr ∉ taken}

/-- A search that may try the first free number finds it. -/
theorem search?_of_isLeast {tries : Nat} (h : IsLeast (freeFrom stem taken next) last)
    (htries : last < next + tries) : search? stem taken tries next = some last := by
  obtain ⟨⟨hle, hfree⟩, hleast⟩ := h
  induction tries generalizing next with
  | zero => omega
  | succ tries ih =>
    unfold search?
    by_cases htaken : identifier stem next.repr ∈ taken
    · have hne : next ≠ last := by
        rintro rfl
        exact hfree htaken
      rw [if_pos htaken]
      refine ih (by push_cast at htries; omega) ?_ (by omega)
      rintro m ⟨hm, hmfree⟩
      exact hleast ⟨by omega, hmfree⟩
    · have hlast : last ≤ next := hleast ⟨le_rfl, htaken⟩
      rw [if_neg htaken, le_antisymm hle hlast]

/-- The numbers before the first free one have taken identifiers of their own. -/
theorem passed_le_card (h : IsLeast (freeFrom stem taken next) last) :
    last - next ≤ taken.toFinset.card := by
  obtain ⟨⟨hle, -⟩, hleast⟩ := h
  have hpassed : ∀ i < (last - next).toNat, counted stem next i ∈ taken := by
    intro i hi
    by_contra hfree
    have := hleast ⟨by omega, hfree⟩
    omega
  have hcard : (Finset.range (last - next).toNat).card ≤ taken.toFinset.card := by
    refine Finset.card_le_card_of_injOn (counted stem next) ?_ ?_
    · intro i hi
      exact List.mem_toFinset.mpr (hpassed i (Finset.mem_range.mp hi))
    · intro i _ j _ hij
      exact counted_inj stem next i j hij
  rw [Finset.card_range] at hcard
  omega

theorem mem_of_lt_firstFree {name : Nat → String} {taken : List String} {m n : Nat} (hm : n ≤ m)
    (h : m < firstFree name taken n) : name m ∈ taken := by
  fun_induction firstFree name taken n with
  | case1 taken n htaken ih =>
    rcases hm.eq_or_lt with rfl | hlt
    · exact htaken
    · exact List.mem_of_mem_erase (ih hlt h)
  | case2 taken n hfree => omega

theorem isLeast_firstFree (stem : String) (taken : List String) (next : Int) :
    IsLeast (freeFrom stem taken next) (next + firstFree (counted stem next) taken 0) := by
  obtain ⟨hfree, -⟩ := firstFree_not_mem (counted_inj stem next) taken 0
  refine ⟨⟨by omega, hfree⟩, ?_⟩
  rintro m ⟨hm, hmfree⟩
  by_contra hlt
  have htaken : counted stem next (m - next).toNat ∈ taken :=
    mem_of_lt_firstFree (Nat.zero_le _) (by omega)
  have hnumber : next + (m - next).toNat = m := by omega
  rw [counted, hnumber] at htaken
  exact hmfree htaken

theorem hyphen_not_mem_repr (h : 0 ≤ next) : '-' ∉ next.repr.toList := by
  obtain ⟨n, rfl⟩ := Int.eq_ofNat_of_zero_le h
  have hrepr : (n : Int).repr.toList = Nat.toDigits 10 n := Nat.toList_repr
  rw [hrepr]
  intro hmem
  exact absurd (Nat.isDigit_of_mem_toDigits (by omega) (le_refl 10) hmem) (by decide)

/-- What stands behind the last of some separators is determined. -/
theorem eq_of_append_cons_eq {α : Type} {c : α} {xs ys front front' : List α} (hx : c ∉ xs)
    (hy : c ∉ ys) (h : front ++ c :: xs = front' ++ c :: ys) : xs = ys := by
  rcases List.append_eq_append_iff.mp h with ⟨gap, -, hgap⟩ | ⟨gap, -, hgap⟩
  · cases gap with
    | nil => exact (List.cons.inj hgap).2
    | cons d gap =>
      obtain ⟨-, rfl⟩ := List.cons.inj hgap
      simp at hx
  · cases gap with
    | nil => exact (List.cons.inj hgap).2.symm
    | cons d gap =>
      obtain ⟨-, rfl⟩ := List.cons.inj hgap
      simp at hy

/-- A counted identifier tells its number, whatever its stem is. -/
theorem number_of_identifier {stem' : String} {m n : Int} (hm : 0 ≤ m) (hn : 0 ≤ n)
    (h : identifier stem m.repr = identifier stem' n.repr) : m = n := by
  have hlist := congrArg String.toList h
  simp only [identifier, String.toList_append, List.append_assoc] at hlist
  have hdigits := eq_of_append_cons_eq (hyphen_not_mem_repr hm) (hyphen_not_mem_repr hn) hlist
  exact Int.repr_inj.1 (String.toList_inj.1 hdigits)

end Identifier

def drawAll {σ : Type} [IdSupply σ] : List (String × List String) → σ → List String
  | [], _ => []
  | (stem, taken) :: draws, s =>
    let (id, s) := IdSupply.draw stem taken s
    id :: drawAll draws s

namespace Counting

open Identifier

theorem draw_eq (stem : String) (taken : List String) (s : Counting) :
    ∃ last, IsLeast (freeFrom stem taken s.next) last ∧
      IdSupply.draw stem taken s = (identifier stem last.repr, ⟨last + 1⟩) :=
  ⟨_, isLeast_firstFree stem taken s.next, rfl⟩

/-- What is drawn later has a number that is not below the counter. -/
theorem number_of_mem_drawAll {draws : List (String × List String)} {s : Counting} {id : String}
    (h : id ∈ drawAll draws s) : ∃ stem m, s.next ≤ m ∧ id = identifier stem m.repr := by
  induction draws generalizing s with
  | nil => cases h
  | cons draw draws ih =>
    obtain ⟨last, ⟨⟨hle, -⟩, -⟩, hdraw⟩ := draw_eq draw.1 draw.2 s
    simp only [drawAll, hdraw] at h
    rcases List.mem_cons.mp h with rfl | hrest
    · exact ⟨draw.1, last, hle, rfl⟩
    · obtain ⟨stem, m, hm, hid⟩ := ih hrest
      refine ⟨stem, m, ?_, hid⟩
      dsimp only at hm
      omega

theorem drawAll_nodup {s : Counting} (h : 0 ≤ s.next) (draws : List (String × List String)) :
    (drawAll draws s).Nodup := by
  induction draws generalizing s with
  | nil => exact .nil
  | cons draw draws ih =>
    obtain ⟨last, ⟨⟨hle, -⟩, -⟩, hdraw⟩ := draw_eq draw.1 draw.2 s
    have hlast : 0 ≤ last := h.trans hle
    simp only [drawAll, hdraw]
    refine List.nodup_cons.mpr ⟨fun hmem => ?_, ih (by dsimp only; omega)⟩
    -- The counter has left the number behind that an equal identifier would have.
    obtain ⟨stem, m, hm, hid⟩ := number_of_mem_drawAll hmem
    dsimp only at hm
    have := number_of_identifier hlast (by omega) hid
    omega

theorem drawAll_free (draws : List (String × List String)) (s : Counting) :
    List.Forall₂ (fun draw id => id ∉ draw.2) draws (drawAll draws s) := by
  induction draws generalizing s with
  | nil => exact .nil
  | cons draw draws ih => exact .cons (IdSupply.draw_not_mem _ _ s) (ih _)

/-- A draw from a counter that is not negative ends after at most one number more than there are
taken identifiers. It gives the identifier of the first number that is free and leaves the counter
behind it. So draws one after another, with any stems and whatever is taken at each, give different
identifiers, and each of them one that is free. -/
theorem draws_free_and_distinct {s : Counting} (h : 0 ≤ s.next) :
    (∀ stem taken, ∃ last, search? stem taken (taken.toFinset.card + 1) s.next = some last ∧
      IsLeast (freeFrom stem taken s.next) last ∧
      IdSupply.draw stem taken s = (identifier stem last.repr, ⟨last + 1⟩)) ∧
    ∀ draws, (drawAll draws s).Nodup ∧
      List.Forall₂ (fun draw id => id ∉ draw.2) draws (drawAll draws s) := by
  refine ⟨fun stem taken => ?_, fun draws => ⟨drawAll_nodup h draws, drawAll_free draws s⟩⟩
  obtain ⟨last, hleast, hdraw⟩ := draw_eq stem taken s
  have hpassed := passed_le_card hleast
  refine ⟨last, search?_of_isLeast hleast ?_, hleast, hdraw⟩
  push_cast
  omega

def nestedStems : List (String × List String) :=
  [("p", ["p-10", "r-11", "p-9"]), ("p-11", []), ("p", ["p-12", "p-13"]), ("p-11", ["p-11-15"])]

theorem nestedStems_draws :
    0 ≤ (Counting.mk 9).next ∧ search? "p" ["p-10", "r-11", "p-9"] 4 9 = some 11 ∧
      IdSupply.draw "p" ["p-10", "r-11", "p-9"] (Counting.mk 9) = ("p-11", ⟨12⟩) ∧
      (drawAll nestedStems (Counting.mk 9)).Nodup ∧
      drawAll nestedStems (Counting.mk 9) = ["p-11", "p-11-12", "p-14", "p-11-16"] := by
  have h : 0 ≤ (Counting.mk 9).next := by decide
  obtain ⟨hdraw, hdraws⟩ := draws_free_and_distinct h
  obtain ⟨last, hsearch, -, hdrawn⟩ := hdraw "p" ["p-10", "r-11", "p-9"]
  have heleven : search? "p" ["p-10", "r-11", "p-9"] 4 9 = some 11 := by decide +kernel
  obtain rfl : last = 11 := Option.some.inj (hsearch.symm.trans heleven)
  exact ⟨h, heleven, hdrawn, (hdraws nestedStems).1, by decide +kernel⟩

end Counting
end PasteRules
