import Mathlib.Data.List.Forall2
import PasteRules.Settings.Migration

/-! Which identifiers entries end up with. An entry keeps its own where it is the first to bring it;
every other entry gets one that nobody holds. -/
namespace PasteRules.Settings

variable {σ : Type}

theorem keepFirst_length (taken : List String) (own : List (Option String)) :
    (keepFirst taken own).length = own.length := by
  fun_induction keepFirst taken own <;> simp_all

theorem mem_keepFirst {taken : List String} {own : List (Option String)} {id : String}
    (h : some id ∈ keepFirst taken own) : some id ∈ own ∧ id ∉ taken := by
  fun_induction keepFirst taken own with
  | case1 => simp at h
  | case2 taken rest ih =>
    obtain ⟨hown, htaken⟩ := ih (by simpa using h)
    exact ⟨List.mem_cons_of_mem _ hown, htaken⟩
  | case3 taken x rest hx ih =>
    obtain ⟨hown, htaken⟩ := ih (by simpa using h)
    exact ⟨List.mem_cons_of_mem _ hown, htaken⟩
  | case4 taken x rest hx ih =>
    rcases List.mem_cons.mp h with he | hr
    · obtain rfl : id = x := Option.some.inj he
      exact ⟨List.mem_cons_self, hx⟩
    · obtain ⟨hown, htaken⟩ := ih hr
      exact ⟨List.mem_cons_of_mem _ hown, fun hm => htaken (List.mem_cons_of_mem _ hm)⟩

theorem keepFirst_nodup (taken : List String) (own : List (Option String)) :
    ((keepFirst taken own).filterMap id).Nodup := by
  fun_induction keepFirst taken own with
  | case1 => exact List.nodup_nil
  | case2 taken rest ih => simpa using ih
  | case3 taken x rest hx ih => simpa using ih
  | case4 taken x rest hx ih =>
    refine List.nodup_cons.mpr ⟨fun hm => ?_, ih⟩
    have hm : some x ∈ keepFirst (x :: taken) rest := by simpa using hm
    exact (mem_keepFirst hm).2 List.mem_cons_self

theorem keepFirst_map_some {taken ids : List String} (hn : ids.Nodup)
    (hd : ∀ id ∈ ids, id ∉ taken) : keepFirst taken (ids.map some) = ids.map some := by
  induction ids generalizing taken with
  | nil => rfl
  | cons id rest ih =>
    obtain ⟨hid, hrest⟩ := List.nodup_cons.mp hn
    have htaken : id ∉ taken := hd id List.mem_cons_self
    have hfree : ∀ x ∈ rest, x ∉ id :: taken := fun x hx => by
      have hne : x ≠ id := fun he => hid (he ▸ hx)
      simpa [hne] using hd x (List.mem_cons_of_mem _ hx)
    simp [keepFirst, htaken, ih hrest hfree]

variable [IdSupply σ]

/-- How an identifier relates to the one that was kept for its place, if any. -/
def Assigned (stem : String) (taken : List String) : Option String → String → Prop
  | some own, id => id = own
  | none, id => id ∉ taken ∧ ∃ suffix, id = identifier stem suffix

/-- Each place gets the identifier kept for it, else one that was not taken. -/
theorem fillIds_assigned (stem : String) (taken : List String) (kept : List (Option String))
    (s : σ) : List.Forall₂ (Assigned stem taken) kept (fillIds stem taken kept s).1 := by
  fun_induction fillIds stem taken kept s with
  | case1 => exact .nil
  | case2 taken own rest s ids s' h ih =>
    rw [h] at ih
    exact .cons rfl ih
  | case3 taken rest s id s₁ hd ids s' h ih =>
    rw [h] at ih
    have hfresh := IdSupply.draw_not_mem stem taken s
    have hform := IdSupply.draw_form stem taken s
    rw [hd] at hfresh hform
    -- Avoiding more than the taken identifiers is avoiding the taken ones.
    refine .cons ⟨hfresh, hform⟩ (ih.imp ?_)
    rintro (_ | own) id' ha
    · exact ⟨fun hm => ha.1 (List.mem_cons_of_mem _ hm), ha.2⟩
    · exact ha

theorem fillIds_length (stem : String) (taken : List String) (kept : List (Option String))
    (s : σ) : (fillIds stem taken kept s).1.length = kept.length :=
  (fillIds_assigned stem taken kept s).length_eq.symm

theorem mem_of_assigned {stem : String} {taken : List String} {kept : List (Option String)}
    {ids : List String} (h : List.Forall₂ (Assigned stem taken) kept ids) {id : String}
    (hid : id ∈ ids) : some id ∈ kept ∨ (id ∉ taken ∧ ∃ suffix, id = identifier stem suffix) := by
  induction h with
  | nil => simp at hid
  | @cons o x kept ids ho _ ih =>
    rcases List.mem_cons.mp hid with rfl | hr
    · cases o with
      | none => exact .inr ho
      | some own => exact .inl (by simp [show id = own from ho])
    · exact (ih hr).imp_left (List.mem_cons_of_mem _)

/-- Where the kept identifiers are distinct and taken, all assigned ones are distinct. -/
theorem fillIds_nodup (stem : String) (taken : List String) (kept : List (Option String)) (s : σ)
    (hn : (kept.filterMap id).Nodup) (ht : ∀ x, some x ∈ kept → x ∈ taken) :
    (fillIds stem taken kept s).1.Nodup := by
  fun_induction fillIds stem taken kept s with
  | case1 => exact List.nodup_nil
  | case2 taken own rest s ids s' h ih =>
    have hass := fillIds_assigned stem taken rest s
    rw [h] at ih hass
    obtain ⟨hown, hrest⟩ : some own ∉ rest ∧ (rest.filterMap id).Nodup := by simpa using hn
    refine List.nodup_cons.mpr ⟨fun hm => ?_, ih hrest
      fun x hx => ht x (List.mem_cons_of_mem _ hx)⟩
    -- A later place holds `own` neither as a kept identifier nor as a drawn one.
    rcases mem_of_assigned hass hm with hk | hf
    · exact hown hk
    · exact hf.1 (ht own List.mem_cons_self)
  | case3 taken rest s id s₁ hd ids s' h ih =>
    have hass := fillIds_assigned stem (id :: taken) rest s₁
    have hfresh := IdSupply.draw_not_mem stem taken s
    rw [h] at ih hass
    rw [hd] at hfresh
    have ht' : ∀ x, some x ∈ rest → x ∈ taken := fun x hx => ht x (List.mem_cons_of_mem _ hx)
    refine List.nodup_cons.mpr ⟨fun hm => ?_, ih (by simpa using hn)
      fun x hx => List.mem_cons_of_mem _ (ht' x hx)⟩
    rcases mem_of_assigned hass hm with hk | hf
    · exact hfresh (ht' id hk)
    · exact hf.1 List.mem_cons_self

theorem fillIds_map_some (stem : String) (taken ids : List String) (s : σ) :
    fillIds stem taken (ids.map some) s = (ids, s) := by
  induction ids with
  | nil => rfl
  | cons id rest ih => simp [fillIds, ih]

theorem assignIds_length (stem : String) (own : List (Option String)) (s : σ) :
    (assignIds stem own s).1.length = own.length :=
  (fillIds_length ..).trans (keepFirst_length ..)

theorem assignIds_nodup (stem : String) (own : List (Option String)) (s : σ) :
    (assignIds stem own s).1.Nodup :=
  fillIds_nodup _ _ _ _ (keepFirst_nodup [] own) fun x hx => by simpa using hx

/-- An assigned identifier is somebody's own or has the form of drawn ones. -/
theorem mem_assignIds {stem : String} {own : List (Option String)} {s : σ} {id : String}
    (h : id ∈ (assignIds stem own s).1) :
    some id ∈ own ∨ ∃ suffix, id = identifier stem suffix :=
  (mem_of_assigned (fillIds_assigned ..) h).imp (fun hk => (mem_keepFirst hk).1) And.right

/-- Entries with distinct identifiers of their own keep them, and nothing is drawn. -/
theorem assignIds_map_some (stem : String) {ids : List String} (hn : ids.Nodup) (s : σ) :
    assignIds stem (ids.map some) s = (ids, s) := by
  have hkeep : keepFirst [] (ids.map some) = ids.map some := keepFirst_map_some hn (by simp)
  simp only [assignIds, hkeep, fillIds_map_some]

end PasteRules.Settings
