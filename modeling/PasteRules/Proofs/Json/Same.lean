import Mathlib.Data.List.Forall2
import PasteRules.Json.Shown

/-! Objects known by their field names, and values that differ at most in the order of fields. -/
namespace PasteRules.Json

/-- The same value: an object's fields are found by name, and their order is no part of it. -/
inductive Same : Json → Json → Prop
  | refl (v : Json) : Same v v
  | arr {items others : List Json} (h : List.Forall₂ Same items others) :
      Same (.arr items) (.arr others)
  | obj {fields others : List (String × Json)}
      (names : ∀ name, (fields.lookup name).isSome = (others.lookup name).isSome)
      (values : ∀ name v w, fields.lookup name = some v → others.lookup name = some w →
        Same v w) :
      Same (.obj fields) (.obj others)

def HasFields (names : List String) (v : Json) : Prop :=
  ∃ fields, v = .obj fields ∧ (fields.map Prod.fst).Perm names

theorem lookup_isSome_iff (fields : List (String × Json)) (name : String) :
    (fields.lookup name).isSome = true ↔ name ∈ fields.map Prod.fst := by
  rw [List.lookup_isSome_iff, List.mem_map]
  exact exists_congr fun f => and_congr_right fun _ => beq_iff_eq.trans eq_comm

theorem HasFields.isSome_iff {names : List String} {v : Json} (h : v.HasFields names)
    (name : String) : (v.field? name).isSome = true ↔ name ∈ names := by
  obtain ⟨fields, rfl, hperm⟩ := h
  exact (lookup_isSome_iff fields name).trans hperm.mem_iff

/-- Objects with the same names are the same if each name has the same value in both. -/
theorem HasFields.same {names : List String} {v w : Json} (hv : v.HasFields names)
    (hw : w.HasFields names) (h : ∀ name ∈ names, (v.field name).Same (w.field name)) :
    v.Same w := by
  have hiff : ∀ name, (v.field? name).isSome = (w.field? name).isSome := fun name =>
    Bool.eq_iff_iff.mpr ((hv.isSome_iff name).trans (hw.isSome_iff name).symm)
  have hvalue : ∀ name x y, v.field? name = some x → w.field? name = some y → x.Same y := by
    intro name x y hx hy
    have hname : name ∈ names := (hv.isSome_iff name).mp (by rw [hx]; rfl)
    simpa [field, hx, hy] using h name hname
  obtain ⟨fields, rfl, -⟩ := hv
  obtain ⟨others, rfl, -⟩ := hw
  exact .obj hiff hvalue

theorem isObject_of_field {v : Json} {name s : String} (h : v.field name = .str s) :
    v.isObject = true := by
  cases v with
  | obj fields => rfl
  | _ => cases h

/-- The text of an object is that of its field `text`. -/
theorem entryText_of_isObject {v : Json} (h : v.isObject = true) :
    v.entryText = (v.field "text").entryText := by
  cases v with
  | obj fields =>
    clear h
    change entryText.fieldText fields = ((fields.lookup "text").getD .null).entryText
    induction fields with
    | nil => rfl
    | cons f rest ih =>
      obtain ⟨name, value⟩ := f
      by_cases hn : name = "text"
      · subst hn
        simp [entryText.fieldText]
      · have hne : ("text" == name) = false := by simpa using fun he => hn he.symm
        simp [entryText.fieldText, hn, List.lookup_cons, hne, ih]
  | _ => cases h

/-! ### Overlaid fields -/

theorem lookup_setField (name n : String) (value : Json) (fields : List (String × Json)) :
    (setField n value fields).lookup name =
      if name = n then some value else fields.lookup name := by
  induction fields with
  | nil =>
    by_cases h : name = n
    · simp [setField, h]
    · have hne : (name == n) = false := by simpa using h
      simp [setField, List.lookup_cons, h, hne]
  | cons f rest ih =>
    obtain ⟨m, v⟩ := f
    by_cases hm : m = n
    · subst hm
      by_cases h : name = m
      · simp [setField, h]
      · have hne : (name == m) = false := by simpa using h
        simp [setField, List.lookup_cons, h, hne]
    · by_cases h : name = m
      · have hne : name ≠ n := fun he => hm (h ▸ he)
        simp [setField, hm, h]
      · have hne : (name == m) = false := by simpa using h
        simp [setField, List.lookup_cons, hm, hne, ih]

/-- The upper fields hide the lower ones of the same names. -/
theorem lookup_overlay (name : String) (below : List (String × Json))
    {above : List (String × Json)} (hn : (above.map Prod.fst).Nodup) :
    (overlay below above).lookup name = (above.lookup name).or (below.lookup name) := by
  induction above generalizing below with
  | nil => simp [overlay]
  | cons f rest ih =>
    obtain ⟨n, v⟩ := f
    obtain ⟨hfresh, hrest⟩ := List.nodup_cons.mp hn
    change (overlay (setField n v below) rest).lookup name = _
    rw [ih _ hrest, lookup_setField]
    by_cases h : name = n
    -- No later field has the name again, so the value that was just set stays.
    · subst h
      have hnone : rest.lookup name = none := by
        rw [← Option.not_isSome_iff_eq_none, lookup_isSome_iff]
        exact hfresh
      simp [hnone]
    · have hne : (name == n) = false := by simpa using h
      simp [List.lookup_cons, h, hne]

end PasteRules.Json
