import PasteRules.Proofs.Settings.Places

/-! Patterns and replacers as migration makes them of entries: which entry keeps its identifier, and
what the others get. -/
namespace PasteRules

def Json.Brings (entry : Json) (id : String) : Prop :=
  ∃ fields, entry = .obj fields ∧ fields.lookup "id" = some (.str id)

namespace Settings

/-- The entry at a place brings an identifier that is not empty and that no object before brings. -/
structure BringsFirst (entries : List Json) (place : Nat) (id : String) : Prop where
  ne_empty : id ≠ ""
  brings : ∃ entry, entries[place]? = some entry ∧ entry.Brings id
  first : ∀ earlier ∈ entries.take place, ¬earlier.Brings id

/-- The fragments are those of the entries: one for each, in their order and with their texts. Who
is the first to bring an identifier keeps it, the others have drawn ones that no entry brings, and
no two are alike. -/
structure Normalised (stem : String) (entries : List Json) (fragments : List Fragment) : Prop where
  length : fragments.length = entries.length
  texts : fragments.map Fragment.text = entries.map Json.entryText
  kept : ∀ place entry fragment, entries[place]? = some entry → fragments[place]? = some fragment →
    (entry.Brings fragment.id ↔ ∃ id, BringsFirst entries place id)
  drawn : ∀ place fragment, fragments[place]? = some fragment →
    (¬∃ id, BringsFirst entries place id) →
      (∃ suffix, fragment.id = identifier stem suffix) ∧
        ∀ entry ∈ entries, ¬entry.Brings fragment.id
  nodup : (fragments.map Fragment.id).Nodup

theorem ownId?_eq_some_iff {entry : Json} {id : String} :
    ownId? entry = some id ↔ entry.Brings id ∧ id ≠ "" := by
  constructor
  · intro h
    refine ⟨?_, ownId?_ne_empty h⟩
    have hfield := ownId?_eq_some h
    cases entry with
    | obj fields =>
      refine ⟨fields, rfl, ?_⟩
      cases hlookup : fields.lookup "id" with
      | none => simp [Json.field, Json.field?, hlookup] at hfield
      | some v => simpa [Json.field, Json.field?, hlookup] using hfield
    | _ => simp [Json.field, Json.field?] at hfield
  · rintro ⟨⟨fields, rfl, hlookup⟩, hne⟩
    simp [ownId?, Json.field, Json.field?, hlookup, hne]

/-- At a place an identifier is kept if it stands there, is not taken, and does not stand before. -/
theorem getElem?_keepFirst {taken : List String} {own : List (Option String)} {place : Nat}
    {id : String} :
    (keepFirst taken own)[place]? = some (some id) ↔
      own[place]? = some (some id) ∧ id ∉ taken ∧ some id ∉ own.take place := by
  fun_induction keepFirst taken own generalizing place with
  | case1 => simp
  | case2 taken rest ih => cases place <;> simp [ih]
  | case3 taken x rest hx ih =>
    cases place with
    | zero =>
      have htaken : some x = some id → id ∈ taken := fun h => Option.some.inj h ▸ hx
      simpa using htaken
    | succ n =>
      have hne : id ∉ taken → id ≠ x := fun hid h => hid (h ▸ hx)
      simp only [List.getElem?_cons_succ, ih, List.take_succ_cons, List.mem_cons, Option.some.injEq]
      tauto
  | case4 taken x rest hx ih =>
    cases place with
    | zero =>
      have hfree : some x = some id → id ∉ taken := fun h => Option.some.inj h ▸ hx
      simpa using hfree
    | succ n =>
      simp only [List.getElem?_cons_succ, ih, List.take_succ_cons, List.mem_cons, Option.some.injEq]
      tauto

/-- An identifier that somebody brings is kept for the first who does. -/
theorem mem_keepFirst_of_mem {taken : List String} {own : List (Option String)} {id : String}
    (h : some id ∈ own) (hfree : id ∉ taken) : some id ∈ keepFirst taken own := by
  fun_induction keepFirst taken own with
  | case1 => cases h
  | case2 taken rest ih => simpa using ih (by simpa using h) hfree
  | case3 taken x rest hx ih =>
    have hne : id ≠ x := fun he => hfree (he ▸ hx)
    simpa using ih (by simpa [hne] using h) hfree
  | case4 taken x rest hx ih =>
    by_cases he : id = x
    · simp [he]
    · simpa [he] using ih (by simpa [he] using h) (by simp [he, hfree])

def keptIds (entries : List Json) : List (Option String) := keepFirst [] (entries.map ownId?)

section

variable {entries : List Json} {place : Nat} {own : String}

theorem bringsFirst_iff :
    BringsFirst entries place own ↔ (keptIds entries)[place]? = some (some own) := by
  rw [keptIds, getElem?_keepFirst, List.getElem?_map, Option.map_eq_some_iff, ← List.map_take,
    List.mem_map]
  constructor
  · rintro ⟨hne, ⟨entry, hentry, hbrings⟩, hfirst⟩
    refine ⟨⟨entry, hentry, ownId?_eq_some_iff.mpr ⟨hbrings, hne⟩⟩, List.not_mem_nil, ?_⟩
    rintro ⟨earlier, hearlier, hown⟩
    exact hfirst earlier hearlier (ownId?_eq_some_iff.mp hown).1
  · rintro ⟨⟨entry, hentry, hown⟩, -, hfirst⟩
    obtain ⟨hbrings, hne⟩ := ownId?_eq_some_iff.mp hown
    refine ⟨hne, ⟨entry, hentry, hbrings⟩, fun earlier hearlier hbrings' => ?_⟩
    exact hfirst ⟨earlier, hearlier, ownId?_eq_some_iff.mpr ⟨hbrings', hne⟩⟩

/-- Whatever an entry brings is kept for somebody. -/
theorem mem_keptIds {entry : Json} (hentry : entry ∈ entries) (hbrings : entry.Brings own)
    (hne : own ≠ "") : some own ∈ keptIds entries := by
  have hown : ownId? entry = some own := ownId?_eq_some_iff.mpr ⟨hbrings, hne⟩
  exact mem_keepFirst_of_mem (List.mem_map.mpr ⟨entry, hentry, hown⟩) List.not_mem_nil

variable {σ : Type} [IdSupply σ] {stem : String} {s : σ} {assigned : String}

section

variable (h : (assignIds stem (entries.map ownId?) s).1[place]? = some assigned)

include h

/-- The identifier at a place is the one kept there, else one that is kept nowhere. -/
theorem assignIds_assigned : ∃ kept, (keptIds entries)[place]? = some kept ∧
    Assigned stem ((keptIds entries).filterMap id) kept assigned := by
  have hassigned := fillIds_assigned stem ((keptIds entries).filterMap id) (keptIds entries) s
  obtain ⟨hplace, hid⟩ := List.getElem?_eq_some_iff.mp h
  have hkept : place < (keptIds entries).length := hassigned.length_eq ▸ hplace
  refine ⟨_, List.getElem?_eq_getElem hkept, ?_⟩
  rw [← hid]
  exact hassigned.get hkept hplace

theorem assignIds_of_bringsFirst (hfirst : BringsFirst entries place own) : assigned = own := by
  obtain ⟨kept, hkept, hassigned⟩ := assignIds_assigned h
  obtain rfl : kept = some own := Option.some.inj (hkept.symm.trans (bringsFirst_iff.mp hfirst))
  exact hassigned

theorem assignIds_of_not_bringsFirst (hnone : ¬∃ own, BringsFirst entries place own) :
    (∃ suffix, assigned = identifier stem suffix) ∧
      ∀ entry ∈ entries, ¬entry.Brings assigned := by
  obtain ⟨kept, hkept, hassigned⟩ := assignIds_assigned h
  cases kept with
  | some own => exact absurd ⟨own, bringsFirst_iff.mpr hkept⟩ hnone
  | none =>
    obtain ⟨hfree, suffix, hform⟩ := hassigned
    refine ⟨⟨suffix, hform⟩, fun entry hentry hbrings => hfree ?_⟩
    have hmem := mem_keptIds hentry hbrings (hform ▸ identifier_ne_empty stem suffix)
    simpa using hmem

end

section

variable {fragment : Fragment} (hfragment : (fragments stem entries s).1[place]? = some fragment)

include hfragment

theorem fragments_id :
    (assignIds stem (entries.map ownId?) s).1[place]? = some fragment.id := by
  have hmap := congrArg (·[place]?) (fragments_ids stem entries s)
  rw [List.getElem?_map, hfragment] at hmap
  exact hmap.symm

theorem fragments_id_of_bringsFirst (h : BringsFirst entries place own) : fragment.id = own :=
  assignIds_of_bringsFirst (fragments_id hfragment) h

theorem fragments_id_of_not_bringsFirst (h : ¬∃ own, BringsFirst entries place own) :
    (∃ suffix, fragment.id = identifier stem suffix) ∧
      ∀ entry ∈ entries, ¬entry.Brings fragment.id :=
  assignIds_of_not_bringsFirst (fragments_id hfragment) h

end

end

/-- Migration normalises entries of any kind, whatever supply it draws from. -/
theorem fragments_normalised {σ : Type} [IdSupply σ] (stem : String) (entries : List Json) (s : σ) :
    Normalised stem entries (fragments stem entries s).1 where
  length := by
    have hids := congrArg List.length (fragments_ids stem entries s)
    rwa [List.length_map, assignIds_length, List.length_map] at hids
  texts := fragments_texts stem entries s
  kept place entry fragment hentry hfragment := by
    constructor
    · intro hbrings
      by_contra hnone
      have hdrawn := fragments_id_of_not_bringsFirst hfragment hnone
      exact hdrawn.2 entry (List.mem_of_getElem? hentry) hbrings
    · rintro ⟨id, hfirst⟩
      obtain ⟨entry', hentry', hbrings⟩ := hfirst.brings
      obtain rfl : entry' = entry := Option.some.inj (hentry'.symm.trans hentry)
      exact fragments_id_of_bringsFirst hfragment hfirst ▸ hbrings
  drawn place fragment hfragment hnone := fragments_id_of_not_bringsFirst hfragment hnone
  nodup := fragments_nodup stem entries s

/-- The first identifiers drawn are those that the first and the fourth entry keep. -/
example :
    (fragments "p" [.obj [("id", .str "p-2")], .str "a", .obj [("id", .str "p-2")],
      .obj [("id", .str "p-1")], .obj [("id", .str "")]] (Counting.mk 1)).1.map Fragment.id =
        ["p-2", "p-3", "p-4", "p-1", "p-5"] := by
  decide +kernel

end Settings
end PasteRules
