import Mathlib.Data.List.Nodup
import PasteRules.Store.Basic

/-! Lists whose elements have keys of their own, so that the first element of a key is the only one.
-/
namespace PasteRules

variable {α : Type} {k : α → String} {xs : List α}

theorem find?_of_mem (hn : (xs.map k).Nodup) {x : α} (hx : x ∈ xs) :
    xs.find? (k · == k x) = some x := by
  cases h : xs.find? (k · == k x) with
  | none =>
    have hnot := List.find?_eq_none.mp h x hx
    simp at hnot
  | some y =>
    have hkey : k y = k x := by simpa using List.find?_some h
    rw [List.inj_on_of_nodup_map hn (List.mem_of_find?_eq_some h) hx hkey]

theorem updateFirst_eq_map (hn : (xs.map k).Nodup) (id : String) (f : α → α) :
    updateFirst (k · == id) f xs = xs.map fun x => if k x = id then f x else x := by
  induction xs with
  | nil => rfl
  | cons x rest ih =>
    obtain ⟨hx, hrest⟩ := List.nodup_cons.mp hn
    by_cases hid : k x = id
    · have hsame : rest.map (fun y => if k y = id then f y else y) = rest.map fun y => y := by
        refine List.map_congr_left fun y hy => if_neg fun hy' => hx ?_
        exact (hid.trans hy'.symm) ▸ List.mem_map_of_mem hy
      simp [updateFirst, hid, hsame]
    · simp [updateFirst, hid, ih hrest]

theorem eraseP_eq_filter (hn : (xs.map k).Nodup) (id : String) :
    xs.eraseP (k · == id) = xs.filter fun x => !(k x == id) := by
  induction xs with
  | nil => rfl
  | cons x rest ih =>
    obtain ⟨hx, hrest⟩ := List.nodup_cons.mp hn
    by_cases hid : k x = id
    · have hall : rest.filter (fun y => !(k y == id)) = rest := by
        refine List.filter_eq_self.mpr fun y hy => ?_
        have hne : k y ≠ id := fun hy' => hx ((hid.trans hy'.symm) ▸ List.mem_map_of_mem hy)
        simpa using hne
      simp [hid, hall]
    · simp [hid, ih hrest]

end PasteRules
