import PasteRules.Proofs.Settings.Records

/-! Links as migration makes them of the entries of a graph: which entries have one, what it says,
and which identifier it has. Entries without a link do not count. -/
namespace PasteRules.Settings

/-- The entry at a place joins two fragments that are there, and no entry before joins the same two.
-/
structure JoinsFirst (patterns replacers : List Fragment) (entries : List Json) (place : Nat)
    (p r : String) : Prop where
  joins : ∃ entry, entries[place]? = some entry ∧ entry.Joins p r
  pattern : p ∈ patterns.map Fragment.id
  replacer : r ∈ replacers.map Fragment.id
  first : ∀ earlier ∈ entries.take place, ¬earlier.Joins p r

def entriesAt (entries : List Json) (places : List Nat) : List Json :=
  places.filterMap (entries[·]?)

/-- The links are those of the entries at the places, which are in their order the ones that join
two fragments first. Who is the first of these entries to bring an identifier keeps it, the others
have drawn ones that none of these entries brings, and no two are alike. -/
structure LinksNormalised (patterns replacers : List Fragment) (entries : List Json)
    (places : List Nat) (links : List Link) : Prop where
  increasing : places.Pairwise (· < ·)
  chosen : ∀ place, place ∈ places ↔ ∃ p r, JoinsFirst patterns replacers entries place p r
  described : List.Forall₂ (fun place l => ∃ entry, entries[place]? = some entry ∧
    entry.Describes l) places links
  kept : ∀ i entry l, (entriesAt entries places)[i]? = some entry → links[i]? = some l →
    (entry.Brings l.id ↔ ∃ id, BringsFirst (entriesAt entries places) i id)
  drawn : ∀ i l, links[i]? = some l → (¬∃ id, BringsFirst (entriesAt entries places) i id) →
    (∃ suffix, l.id = identifier Identifier.linkStem suffix) ∧
      ∀ entry ∈ entriesAt entries places, ¬entry.Brings l.id
  nodup : (links.map Link.id).Nodup

variable {patterns replacers : List Fragment} {entries : List Json}

def Chosen (patterns replacers : List Fragment) (seen : List (String × String))
    (entries : List Json) (place : Nat) : Prop :=
  ∃ pair, entries[place]?.bind (ends? patterns replacers) = some pair ∧ pair ∉ seen ∧
    ∀ earlier ∈ entries.take place, ends? patterns replacers earlier ≠ some pair

theorem chosen_zero {seen : List (String × String)} {entry : Json} :
    Chosen patterns replacers seen (entry :: entries) 0 ↔
      ∃ pair, ends? patterns replacers entry = some pair ∧ pair ∉ seen := by
  simp [Chosen]

/-- Behind an entry that is used, its ends are seen. -/
theorem chosen_succ {seen seen' : List (String × String)} {entry : Json} {place : Nat}
    (h : ∀ pair, pair ∉ seen' ↔ pair ∉ seen ∧ ends? patterns replacers entry ≠ some pair) :
    Chosen patterns replacers seen (entry :: entries) (place + 1) ↔
      Chosen patterns replacers seen' entries place := by
  simp only [Chosen, List.getElem?_cons_succ, List.take_succ_cons, List.forall_mem_cons, h,
    and_assoc]

/-- The places are in their order those of the chosen entries, which are the used ones. -/
structure Picks (patterns replacers : List Fragment) (seen : List (String × String))
    (entries : List Json) (places : List Nat) (used : List (Json × String × String)) : Prop where
  increasing : places.Pairwise (· < ·)
  chosen : ∀ place, place ∈ places ↔ Chosen patterns replacers seen entries place
  used : List.Forall₂ (fun place x => entries[place]? = some x.1) places used

section

variable {seen : List (String × String)} {entry : Json} {places : List Nat}
  {used : List (Json × String × String)}

theorem Picks.skip (h : Picks patterns replacers seen entries places used)
    (hseen : ∀ pair, ends? patterns replacers entry = some pair → pair ∈ seen) :
    Picks patterns replacers seen (entry :: entries) (places.map (· + 1)) used := by
  constructor
  · rw [List.pairwise_map]
    exact h.increasing.imp Nat.succ_lt_succ
  · intro place
    cases place with
    | zero =>
      rw [chosen_zero]
      constructor
      · intro hplace
        simp at hplace
      · rintro ⟨pair, hends, hnew⟩
        exact absurd (hseen pair hends) hnew
    | succ place =>
      have hsame : ∀ pair, pair ∉ seen ↔
          pair ∉ seen ∧ ends? patterns replacers entry ≠ some pair :=
        fun pair => ⟨fun hnew => ⟨hnew, fun hends => hnew (hseen pair hends)⟩, And.left⟩
      rw [chosen_succ hsame, ← h.chosen]
      simp
  · exact List.forall₂_map_left_iff.mpr h.used

theorem Picks.take {pair : String × String}
    (h : Picks patterns replacers (pair :: seen) entries places used)
    (hends : ends? patterns replacers entry = some pair) (hnew : pair ∉ seen) :
    Picks patterns replacers seen (entry :: entries) (0 :: places.map (· + 1))
      ((entry, pair) :: used) := by
  constructor
  · refine List.pairwise_cons.mpr ⟨by simp, ?_⟩
    rw [List.pairwise_map]
    exact h.increasing.imp Nat.succ_lt_succ
  · intro place
    cases place with
    | zero =>
      rw [chosen_zero]
      exact iff_of_true List.mem_cons_self ⟨pair, hends, hnew⟩
    | succ place =>
      have hseen : ∀ pair', pair' ∉ pair :: seen ↔
          pair' ∉ seen ∧ ends? patterns replacers entry ≠ some pair' := by
        intro pair'
        rw [hends, List.mem_cons, not_or, Ne, Option.some.injEq, and_comm, eq_comm]
      rw [chosen_succ hseen, ← h.chosen]
      simp
  · exact .cons rfl (List.forall₂_map_left_iff.mpr h.used)

end

theorem exists_picks (patterns replacers : List Fragment) (seen : List (String × String))
    (entries : List Json) :
    ∃ places, Picks patterns replacers seen entries places
      (usableLinks patterns replacers seen entries) := by
  fun_induction usableLinks patterns replacers seen entries with
  | case1 => exact ⟨[], .nil, by simp [Chosen], .nil⟩
  | case2 seen entry rest hends ih =>
    obtain ⟨places, hpicks⟩ := ih
    exact ⟨_, hpicks.skip fun pair h => by simp [hends] at h⟩
  | case3 seen entry rest pair hends hseen ih =>
    obtain ⟨places, hpicks⟩ := ih
    exact ⟨_, hpicks.skip fun pair' h => Option.some.inj (hends.symm.trans h) ▸ hseen⟩
  | case4 seen entry rest pair hends hseen ih =>
    obtain ⟨places, hpicks⟩ := ih
    exact ⟨_, hpicks.take hends hseen⟩

theorem chosen_iff {place : Nat} : Chosen patterns replacers [] entries place ↔
    ∃ p r, JoinsFirst patterns replacers entries place p r := by
  constructor
  · rintro ⟨⟨p, r⟩, hplace, -, hfirst⟩
    obtain ⟨entry, hentry, hends⟩ := Option.bind_eq_some_iff.mp hplace
    obtain ⟨hjoins, hp, hr⟩ := ends?_eq_some_iff.mp hends
    refine ⟨p, r, ⟨entry, hentry, hjoins⟩, hp, hr, ?_⟩
    intro earlier hearlier hjoins'
    exact hfirst earlier hearlier (ends?_eq_some_iff.mpr ⟨hjoins', hp, hr⟩)
  · rintro ⟨p, r, ⟨entry, hentry, hjoins⟩, hp, hr, hfirst⟩
    refine ⟨(p, r), ?_, List.not_mem_nil, ?_⟩
    · rw [hentry]
      exact ends?_eq_some_iff.mpr ⟨hjoins, hp, hr⟩
    · intro earlier hearlier hends
      exact hfirst earlier hearlier (ends?_eq_some_iff.mp hends).1

theorem entriesAt_eq {places : List Nat} {used : List (Json × String × String)}
    (h : List.Forall₂ (fun place x => entries[place]? = some x.1) places used) :
    entriesAt entries places = used.map Prod.fst := by
  unfold entriesAt
  induction h with
  | nil => rfl
  | cons hplace _ ih => rw [List.filterMap_cons_some hplace, ih, List.map_cons]

theorem described_of_used {places : List Nat} {used : List (Json × String × String)}
    {links : List Link} (hplaces : List.Forall₂ (fun place x => entries[place]? = some x.1) places
      used) (hlinks : List.Forall₂ (fun l x => x.1.Describes l) links used) :
    List.Forall₂ (fun place l => ∃ entry, entries[place]? = some entry ∧ entry.Describes l) places
      links := by
  induction hplaces generalizing links with
  | nil =>
    cases hlinks
    exact .nil
  | cons hplace _ ih =>
    cases hlinks with
    | cons hdescribes hrest => exact .cons ⟨_, hplace, hdescribes⟩ (ih hrest)

/-- Used entries alone are all used. -/
theorem usableLinks_usedEntries (patterns replacers : List Fragment) (entries : List Json) :
    usableLinks patterns replacers [] ((usedEntries patterns replacers entries).map Prod.fst) =
      usedEntries patterns replacers entries := by
  obtain ⟨hn, hspec⟩ : ((usedEntries patterns replacers entries).map Prod.snd).Nodup ∧
      ∀ x ∈ usedEntries patterns replacers entries,
        x.2 ∉ [] ∧ ends? patterns replacers x.1 = some x.2 := usableLinks_spec
  have hends : ((usedEntries patterns replacers entries).map Prod.fst).filterMap
      (ends? patterns replacers) = (usedEntries patterns replacers entries).map Prod.snd := by
    rw [List.filterMap_map, ← List.filterMap_eq_map]
    apply List.filterMap_congr
    intro x hx
    exact (hspec x hx).2
  -- No two used entries have the same ends, so none is dropped for being a repetition.
  rw [usableLinks_eq_filterMap (hends ▸ hn) fun _ _ => List.not_mem_nil, List.filterMap_map]
  calc
    _ = (usedEntries patterns replacers entries).filterMap some := by
      apply List.filterMap_congr
      intro x hx
      simp [(hspec x hx).2]
    _ = usedEntries patterns replacers entries := List.filterMap_some

variable {σ : Type} [IdSupply σ]

/-- Migration makes links of exactly the entries that join two fragments first, whatever supply it
draws from, and of these entries alone it would make the same. -/
theorem links_normalised (patterns replacers : List Fragment) (entries : List Json) (s : σ) :
    ∃ places, LinksNormalised patterns replacers entries places
        (graphLinks patterns replacers entries s).1 ∧
      graphLinks patterns replacers (entriesAt entries places) s =
        graphLinks patterns replacers entries s := by
  obtain ⟨places, hpicks⟩ := exists_picks patterns replacers [] entries
  have hkept : entriesAt entries places = (usedEntries patterns replacers entries).map Prod.fst :=
    entriesAt_eq hpicks.used
  have hids {i : Nat} {l : Link} (hl : (graphLinks patterns replacers entries s).1[i]? = some l) :
      (assignIds Identifier.linkStem ((entriesAt entries places).map ownId?) s).1[i]? =
        some l.id := by
    have hmap := congrArg (·[i]?) (graphLinks_ids patterns replacers entries s)
    rw [List.getElem?_map, hl, graphIds, ← List.map_map, ← hkept] at hmap
    exact hmap.symm
  refine ⟨places, ?_, ?_⟩
  · constructor
    · exact hpicks.increasing
    · intro place
      rw [hpicks.chosen, chosen_iff]
    · exact described_of_used hpicks.used (graphLinks_forall₂ patterns replacers entries s)
    · intro i entry l hentry hl
      constructor
      · intro hbrings
        by_contra hnone
        obtain ⟨-, hdrawn⟩ := assignIds_of_not_bringsFirst (hids hl) hnone
        exact hdrawn entry (List.mem_of_getElem? hentry) hbrings
      · rintro ⟨id, hfirst⟩
        obtain ⟨entry', hentry', hbrings⟩ := hfirst.brings
        obtain rfl : entry' = entry := Option.some.inj (hentry'.symm.trans hentry)
        exact assignIds_of_bringsFirst (hids hl) hfirst ▸ hbrings
    · intro i l hl hnone
      exact assignIds_of_not_bringsFirst (hids hl) hnone
    · rw [graphLinks_ids]
      exact assignIds_nodup ..
  · have hused := usableLinks_usedEntries patterns replacers entries
    rw [← hkept] at hused
    -- Links are made of the used entries and of nothing else.
    unfold graphLinks
    rw [hused]
    rfl

/-- The first two entries to bring an identifier have no link, so the last one keeps it. -/
example :
    (graphLinks [⟨"p-1", "a"⟩] [⟨"r-1", "X"⟩, ⟨"r-2", "Y"⟩]
      [.obj [("id", .str "l-1"), ("patternId", .str "p-9"), ("replacerId", .str "r-1")],
        .obj [("patternId", .str "p-1"), ("replacerId", .str "r-1")],
        .obj [("id", .str "l-1"), ("patternId", .str "p-1"), ("replacerId", .str "r-1")],
        .obj [("id", .str "l-1"), ("patternId", .str "p-1"), ("replacerId", .str "r-2")]]
      (Counting.mk 1)).1.map (fun l => (l.id, l.pair)) =
        [("l-2", "p-1", "r-1"), ("l-1", "p-1", "r-2")] := by
  decide +kernel

end PasteRules.Settings
