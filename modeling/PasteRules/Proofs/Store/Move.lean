import Mathlib.Data.List.Nodup
import PasteRules.Store.Step

/-! Where links stand, and where a link that is moved leaves the others. -/
namespace PasteRules

def Link.place (links : List Link) (id : String) : Nat := links.findIdx (·.id == id)

namespace Store

theorem insertIdx_eq_take_append {α : Type} {xs : List α} {i : Nat} (h : i ≤ xs.length) (x : α) :
    xs.insertIdx i x = xs.take i ++ x :: xs.drop i := by
  induction xs generalizing i with
  | nil =>
    obtain rfl : i = 0 := Nat.le_zero.mp h
    rfl
  | cons y rest ih =>
    cases i with
    | zero => rfl
    | succ i => simp [ih (Nat.le_of_succ_le_succ h)]

variable {before behind : List Link} {w : Link}

theorem id_ne_of_nodup (hn : ((before ++ w :: behind).map Link.id).Nodup) :
    ∀ l ∈ before ++ behind, l.id ≠ w.id := by
  rw [List.map_append, List.map_cons, List.nodup_middle, ← List.map_append] at hn
  intro l hl hid
  exact (List.nodup_cons.mp hn).1 (hid ▸ List.mem_map_of_mem hl)

theorem place_append (h : ∀ l ∈ before, l.id ≠ w.id) :
    Link.place (before ++ w :: behind) w.id = before.length := by
  have hbefore : before.findIdx (·.id == w.id) = before.length :=
    List.findIdx_eq_length_of_false fun l hl => by simpa using h l hl
  unfold Link.place
  rw [List.findIdx_append, hbefore]
  simp [List.findIdx_cons]

/-- A link that is not moved back has none before it but those that were. -/
theorem moved_front {i : Nat} (hn : ∀ l ∈ before ++ behind, l.id ≠ w.id)
    (hi : i ≤ (before ++ behind).length)
    (front : Link.place ((before ++ behind).insertIdx i w) w.id ≤
      Link.place (before ++ w :: behind) w.id) :
    (before ++ behind).insertIdx i w = before.take i ++ w :: (before ++ behind).drop i := by
  have hsplit := insertIdx_eq_take_append hi w
  have hplace : Link.place ((before ++ behind).insertIdx i w) w.id = i := by
    rw [hsplit, place_append fun l hl => hn l (List.mem_of_mem_take hl), List.length_take]
    omega
  rw [hplace, place_append fun l hl => hn l (List.mem_append_left _ hl)] at front
  rw [hsplit, List.take_append_of_le_length front]

/-- What is moved behind a link leaves what stands before it. -/
theorem moved_behind {l : Link} {i : Nat} (hbefore : ∀ x ∈ before, x.id ≠ w.id)
    (hl : ∀ x ∈ before, x.id ≠ l.id) (hne : l.id ≠ w.id) (hi : i ≤ (before ++ w :: behind).length)
    (hplace : Link.place ((before ++ w :: behind).insertIdx i l) w.id <
      Link.place ((before ++ w :: behind).insertIdx i l) l.id) :
    ∃ behind', (before ++ w :: behind).insertIdx i l = before ++ w :: behind' := by
  have hsplit := insertIdx_eq_take_append hi l
  by_cases hfront : i ≤ before.length
  · -- Then it would stand before the link.
    have hlist : (before ++ w :: behind).insertIdx i l =
        (before.take i ++ l :: before.drop i) ++ w :: behind := by
      rw [hsplit, List.take_append_of_le_length hfront, List.drop_append_of_le_length hfront]
      simp
    have hw : Link.place ((before ++ w :: behind).insertIdx i l) w.id =
        (before.take i ++ l :: before.drop i).length := by
      rw [hlist, place_append]
      intro x hx
      rcases List.mem_append.mp hx with hx | hx
      · exact hbefore x (List.mem_of_mem_take hx)
      · rcases List.mem_cons.mp hx with rfl | hx
        · exact hne
        · exact hbefore x (List.mem_of_mem_drop hx)
    have hmoved : Link.place ((before ++ w :: behind).insertIdx i l) l.id =
        (before.take i).length := by
      rw [hsplit, List.take_append_of_le_length hfront,
        place_append fun x hx => hl x (List.mem_of_mem_take hx)]
    rw [hw, hmoved, List.length_append] at hplace
    omega
  · obtain ⟨n, hn⟩ : ∃ n, i - before.length = n + 1 := ⟨i - before.length - 1, by omega⟩
    have htake : (before ++ w :: behind).take i = before ++ w :: behind.take n := by
      rw [List.take_append, List.take_of_length_le (by omega), hn, List.take_succ_cons]
    exact ⟨behind.take n ++ l :: (before ++ w :: behind).drop i, by simp [hsplit, htake]⟩

theorem place_lt_of_mem {l : Link} (hl : l ∈ before) :
    Link.place (before ++ w :: behind) l.id < before.length := by
  have hlt : before.findIdx (·.id == l.id) < before.length :=
    List.findIdx_lt_length_of_exists ⟨l, hl, by simp⟩
  unfold Link.place
  rw [List.findIdx_append, if_pos hlt]
  exact hlt

end Store
end PasteRules
