import PasteRules.Proofs.Settings.Assignment
import PasteRules.Proofs.Store.Graph
import PasteRules.Settings.Load

/-! Fragments and links as migration builds them: their identifiers tell them apart, and their links
join each pair at most once and only what is there. -/
namespace PasteRules

namespace Json

theorem string?_eq_some_iff {v : Json} {s : String} : v.string? = some s ↔ v = .str s := by
  cases v <;> simp [string?]

def Joins (entry : Json) (p r : String) : Prop :=
  entry.field "patternId" = .str p ∧ entry.field "replacerId" = .str r

/-- The link is that of the entry: its ends, and its flag and comment or what stands for them. -/
structure Describes (entry : Json) (l : Link) : Prop where
  joins : entry.Joins l.patternId l.replacerId
  enabled : l.enabled = (entry.field "enabled").flag?.getD true
  comment : l.comment = (entry.field "comment").string?.getD ""

end Json

theorem identifier_ne_empty (stem suffix : String) : identifier stem suffix ≠ "" := by
  intro h
  have hl := congrArg String.length h
  simp [identifier] at hl

namespace Settings

theorem ownId?_ne_empty {entry : Json} {id : String} (h : ownId? entry = some id) : id ≠ "" := by
  unfold ownId? at h
  split at h
  · split at h
    · cases h
    · next hne => exact Option.some.inj h ▸ hne
  · cases h

/-- A zip by a constructor that keeps its first argument keeps the first list. -/
theorem map_zipWith_left {α β γ : Type} {f : α → β → γ} {g : γ → α} (h : ∀ a b, g (f a b) = a)
    {as : List α} {bs : List β} (hl : as.length = bs.length) :
    (List.zipWith f as bs).map g = as := by
  have hfst : g ∘ Function.uncurry f = Prod.fst := funext fun x => h x.1 x.2
  rw [← List.map_uncurry_zip_eq_zipWith, List.map_map, hfst]
  exact List.map_fst_zip (Nat.le_of_eq hl)

theorem map_zipWith_right {α β γ δ : Type} {f : α → β → γ} {g : γ → δ} {k : β → δ}
    (h : ∀ a b, g (f a b) = k b) {as : List α} {bs : List β} (hl : as.length = bs.length) :
    (List.zipWith f as bs).map g = bs.map k := by
  have hsnd : g ∘ Function.uncurry f = k ∘ Prod.snd := funext fun x => h x.1 x.2
  rw [← List.map_uncurry_zip_eq_zipWith, List.map_map, hsnd, ← List.map_map,
    List.map_snd_zip (Nat.le_of_eq hl.symm)]

theorem forall₂_zipWith {α β γ : Type} {f : α → β → γ} {R : γ → β → Prop} {as : List α}
    {bs : List β} (hl : as.length = bs.length) (h : ∀ a, ∀ b ∈ bs, R (f a b) b) :
    List.Forall₂ R (List.zipWith f as bs) bs := by
  induction bs generalizing as with
  | nil => simp
  | cons b bs ih =>
    cases as with
    | nil => cases hl
    | cons a as =>
      have hrest := ih (Nat.succ.inj hl) fun a b hb => h a b (List.mem_cons_of_mem _ hb)
      exact .cons (h a b List.mem_cons_self) hrest

theorem exists_of_forall₂ {α β : Type} {R : α → β → Prop} {as : List α} {bs : List β}
    (h : List.Forall₂ R as bs) {a : α} (ha : a ∈ as) : ∃ b ∈ bs, R a b := by
  induction h with
  | nil => cases ha
  | cons hab _ ih =>
    rcases List.mem_cons.mp ha with rfl | hrest
    · exact ⟨_, List.mem_cons_self, hab⟩
    · obtain ⟨b, hb, hr⟩ := ih hrest
      exact ⟨b, List.mem_cons_of_mem _ hb, hr⟩

variable {σ : Type} [IdSupply σ]

theorem fragments_ids (stem : String) (entries : List Json) (s : σ) :
    (fragments stem entries s).1.map Fragment.id =
      (assignIds stem (entries.map ownId?) s).1 := by
  have hl := assignIds_length stem (entries.map ownId?) s
  rw [List.length_map] at hl
  exact map_zipWith_left (fun _ _ => rfl) hl

theorem fragments_nodup (stem : String) (entries : List Json) (s : σ) :
    ((fragments stem entries s).1.map Fragment.id).Nodup :=
  fragments_ids stem entries s ▸ assignIds_nodup ..

/-- Assigned identifiers are not empty where nobody brings an empty one. -/
theorem assignIds_ne_empty {α : Type} (e : α → Json) {xs : List α} {stem : String} {s : σ}
    {id : String} (h : id ∈ (assignIds stem (xs.map (ownId? ∘ e)) s).1) : id ≠ "" := by
  rcases mem_assignIds h with hown | ⟨suffix, rfl⟩
  · obtain ⟨x, -, hx⟩ := List.mem_map.mp hown
    exact ownId?_ne_empty hx
  · exact identifier_ne_empty _ _

theorem fragments_ne_empty {stem : String} {entries : List Json} {s : σ} {f : Fragment}
    (h : f ∈ (fragments stem entries s).1) : f.id ≠ "" :=
  assignIds_ne_empty id (fragments_ids stem entries s ▸ List.mem_map_of_mem h)

theorem ownId?_eq_some {entry : Json} {id : String} (h : ownId? entry = some id) :
    entry.field "id" = .str id := by
  unfold ownId? at h
  split at h
  · next id' hid =>
    split at h
    · cases h
    · rw [hid, Option.some.inj h]
  · cases h

/-- The identifier of a fragment comes from an entry or was drawn. -/
theorem fragments_id_form {stem : String} {entries : List Json} {s : σ} {f : Fragment}
    (h : f ∈ (fragments stem entries s).1) :
    .str f.id ∈ entries.map (·.field "id") ∨ ∃ suffix, f.id = identifier stem suffix := by
  have hid : f.id ∈ (assignIds stem (entries.map ownId?) s).1 :=
    fragments_ids stem entries s ▸ List.mem_map_of_mem h
  refine (mem_assignIds hid).imp_left fun hown => ?_
  obtain ⟨entry, hentry, he⟩ := List.mem_map.mp hown
  exact List.mem_map.mpr ⟨entry, hentry, ownId?_eq_some he⟩

/-! ### Links by place -/

/-- The pairs that are left are the given ones, each once, and none that was seen. -/
theorem distinctPairs_spec {seen : List (String × String)} {pairs : List (Nat × String × String)} :
    ((distinctPairs (· == ·) seen pairs).map Prod.snd).Nodup ∧
      (∀ x ∈ distinctPairs (· == ·) seen pairs, x ∈ pairs ∧ x.2 ∉ seen) := by
  fun_induction distinctPairs (fun a b : String => a == b) seen pairs with
  | case1 => simp
  | case2 seen i p r rest h ih =>
    exact ⟨ih.1, fun x hx => ⟨List.mem_cons_of_mem _ (ih.2 x hx).1, (ih.2 x hx).2⟩⟩
  | case3 seen i p r rest h ih =>
    have hseen : (p, r) ∉ seen := fun hm => h (List.any_eq_true.mpr ⟨(p, r), hm, by simp⟩)
    refine ⟨List.nodup_cons.mpr ⟨fun hm => ?_, ih.1⟩, fun x hx => ?_⟩
    · obtain ⟨y, hy, he⟩ := List.mem_map.mp hm
      exact (ih.2 y hy).2 (he ▸ List.mem_cons_self)
    · rcases List.mem_cons.mp hx with rfl | hr
      · exact ⟨List.mem_cons_self, hseen⟩
      · exact ⟨List.mem_cons_of_mem _ (ih.2 x hr).1,
          fun hm => (ih.2 x hr).2 (List.mem_cons_of_mem _ hm)⟩

theorem mem_alignedPairs {α : Type} {patterns replacers : List α} {x : Nat × α × α}
    (h : x ∈ alignedPairs patterns replacers) : x.2.1 ∈ patterns ∧ x.2.2 ∈ replacers := by
  obtain ⟨i, hi, rfl⟩ := List.mem_mapIdx.mp h
  exact List.of_mem_zip (List.getElem_mem _)

theorem linkIds_length (count : Nat) (s : σ) : (linkIds count s).1.length = count := by
  simp [linkIds, fillIds_length]

theorem linkIds_nodup (count : Nat) (s : σ) : (linkIds count s).1.Nodup := by
  refine fillIds_nodup _ _ _ _ ?_ fun x hx => ?_
  · rw [List.filterMap_replicate_of_none rfl]
    exact .nil
  · simp at hx

theorem linkIds_ne_empty {count : Nat} {s : σ} {id : String} (h : id ∈ (linkIds count s).1) :
    id ≠ "" := by
  rcases mem_of_assigned (fillIds_assigned ..) h with hk | ⟨-, suffix, rfl⟩
  · simp at hk
  · exact identifier_ne_empty _ _

def placePairs (patterns replacers : List Fragment) : List (Nat × String × String) :=
  distinctPairs (· == ·) [] (alignedPairs (patterns.map Fragment.id) (replacers.map Fragment.id))

section

variable (patterns replacers : List Fragment) (flags comments entries : List Json) (s : σ)

theorem alignedLinks_ids :
    (alignedLinks patterns replacers flags comments s).1.map Link.id =
      (linkIds (placePairs patterns replacers).length s).1 :=
  map_zipWith_left (fun _ _ => rfl) (linkIds_length _ s)

theorem alignedLinks_pairs :
    (alignedLinks patterns replacers flags comments s).1.map Link.pair =
      (placePairs patterns replacers).map Prod.snd :=
  map_zipWith_right (g := Link.pair) (k := Prod.snd) (fun _ _ => rfl) (linkIds_length _ s)

/-- The entries that links of a graph are built from. -/
def usedEntries : List (Json × String × String) := usableLinks patterns replacers [] entries

def graphIds : List String :=
  (assignIds Identifier.linkStem
    ((usedEntries patterns replacers entries).map (ownId? ∘ Prod.fst)) s).1

theorem graphIds_length :
    (graphIds patterns replacers entries s).length =
      (usedEntries patterns replacers entries).length := by
  rw [graphIds, assignIds_length, List.length_map]

theorem graphLinks_ids :
    (graphLinks patterns replacers entries s).1.map Link.id =
      graphIds patterns replacers entries s :=
  map_zipWith_left (fun _ _ => rfl) (graphIds_length patterns replacers entries s)

theorem graphLinks_pairs :
    (graphLinks patterns replacers entries s).1.map Link.pair =
      (usedEntries patterns replacers entries).map Prod.snd :=
  map_zipWith_right (g := Link.pair) (k := Prod.snd) (fun _ _ => rfl)
    (graphIds_length patterns replacers entries s)

end

variable {patterns replacers : List Fragment} {flags comments entries : List Json} {s : σ}

/-- Links by place make a sound graph of fragments that identifiers tell apart. -/
theorem alignedLinks_sound (hp : (patterns.map Fragment.id).Nodup)
    (hr : (replacers.map Fragment.id).Nodup) :
    SoundGraph patterns replacers (alignedLinks patterns replacers flags comments s).1 where
  patternIds := hp
  replacerIds := hr
  linkIds := alignedLinks_ids patterns replacers flags comments s ▸ linkIds_nodup _ s
  pairs := alignedLinks_pairs patterns replacers flags comments s ▸ distinctPairs_spec.1
  ends l hl := by
    have hm : l.pair ∈ (placePairs patterns replacers).map Prod.snd :=
      alignedLinks_pairs patterns replacers flags comments s ▸ List.mem_map_of_mem hl
    obtain ⟨x, hx, he⟩ := List.mem_map.mp hm
    have hends := mem_alignedPairs (distinctPairs_spec.2 x hx).1
    rw [he] at hends
    exact hends

theorem alignedLinks_ne_empty {l : Link}
    (h : l ∈ (alignedLinks patterns replacers flags comments s).1) : l.id ≠ "" :=
  linkIds_ne_empty (alignedLinks_ids patterns replacers flags comments s ▸ List.mem_map_of_mem h)

theorem alignedLinks_ne_nil (hp : patterns ≠ []) (hr : replacers ≠ []) :
    (alignedLinks patterns replacers flags comments s).1 ≠ [] := by
  obtain ⟨p, ps, rfl⟩ := List.exists_cons_of_ne_nil hp
  obtain ⟨r, rs, rfl⟩ := List.exists_cons_of_ne_nil hr
  intro h
  have hpairs := alignedLinks_pairs (p :: ps) (r :: rs) flags comments s
  rw [h] at hpairs
  simp [placePairs, alignedPairs, distinctPairs] at hpairs

/-! ### Links of a graph -/

theorem ends?_eq_some_iff {entry : Json} {p r : String} :
    ends? patterns replacers entry = some (p, r) ↔
      entry.Joins p r ∧ p ∈ patterns.map Fragment.id ∧ r ∈ replacers.map Fragment.id := by
  unfold ends? Json.Joins
  rw [← Fragment.has_iff, ← Fragment.has_iff, ← Json.string?_eq_some_iff,
    ← Json.string?_eq_some_iff]
  cases (entry.field "patternId").string? with
  | none => simp
  | some p' =>
    cases (entry.field "replacerId").string? with
    | none => simp
    | some r' =>
      constructor
      · intro h
        obtain ⟨hhas, rfl, rfl⟩ :
            (Fragment.has patterns p' = true ∧ Fragment.has replacers r' = true) ∧
              p' = p ∧ r' = r := by simpa using h
        exact ⟨⟨rfl, rfl⟩, hhas⟩
      · rintro ⟨⟨hp, hr⟩, hhas⟩
        obtain rfl := Option.some.inj hp
        obtain rfl := Option.some.inj hr
        simp [hhas]

theorem usableLinks_spec {seen : List (String × String)} :
    ((usableLinks patterns replacers seen entries).map Prod.snd).Nodup ∧
      ∀ x ∈ usableLinks patterns replacers seen entries,
        x.2 ∉ seen ∧ ends? patterns replacers x.1 = some x.2 := by
  fun_induction usableLinks patterns replacers seen entries with
  | case1 => simp
  | case2 seen entry rest h ih => exact ih
  | case3 seen entry rest pair h hseen ih => exact ih
  | case4 seen entry rest pair h hseen ih =>
    refine ⟨List.nodup_cons.mpr ⟨fun hm => ?_, ih.1⟩, fun x hx => ?_⟩
    · obtain ⟨y, hy, he⟩ := List.mem_map.mp hm
      exact (ih.2 y hy).1 (he ▸ List.mem_cons_self)
    · rcases List.mem_cons.mp hx with rfl | hr
      · exact ⟨hseen, h⟩
      · exact ⟨fun hm => (ih.2 x hr).1 (List.mem_cons_of_mem _ hm), (ih.2 x hr).2⟩

theorem graphLinks_sound (hp : (patterns.map Fragment.id).Nodup)
    (hr : (replacers.map Fragment.id).Nodup) :
    SoundGraph patterns replacers (graphLinks patterns replacers entries s).1 where
  patternIds := hp
  replacerIds := hr
  linkIds := graphLinks_ids patterns replacers entries s ▸ assignIds_nodup ..
  pairs := graphLinks_pairs patterns replacers entries s ▸ usableLinks_spec.1
  ends l hl := by
    have hm : l.pair ∈ (usedEntries patterns replacers entries).map Prod.snd :=
      graphLinks_pairs patterns replacers entries s ▸ List.mem_map_of_mem hl
    obtain ⟨x, hx, he⟩ := List.mem_map.mp hm
    obtain ⟨-, hends⟩ := usableLinks_spec.2 x hx
    rw [he] at hends
    exact (ends?_eq_some_iff.mp hends).2

/-- The pairs of the used entries are those of all entries whose ends are there. -/
theorem mem_map_usableLinks {seen : List (String × String)} {pair : String × String} :
    pair ∈ (usableLinks patterns replacers seen entries).map Prod.snd ↔
      pair ∉ seen ∧ ∃ entry ∈ entries, ends? patterns replacers entry = some pair := by
  fun_induction usableLinks patterns replacers seen entries with
  | case1 => simp
  | case2 seen entry rest h ih => simp [ih, h]
  | case3 seen entry rest pair' h hseen ih =>
    have hne : pair ∉ seen → pair' ≠ pair := fun hn he => hn (he ▸ hseen)
    simp only [ih, List.mem_cons, exists_eq_or_imp, h, Option.some.injEq]
    tauto
  | case4 seen entry rest pair' h hseen ih =>
    simp only [List.map_cons, List.mem_cons, ih, exists_eq_or_imp, h, Option.some.injEq]
    by_cases he : pair = pair'
    · simp [he, hseen]
    · have hne : pair' ≠ pair := fun h => he h.symm
      simp [he, hne]

theorem mem_of_mem_usableLinks {seen : List (String × String)} {x : Json × String × String}
    (h : x ∈ usableLinks patterns replacers seen entries) : x.1 ∈ entries := by
  fun_induction usableLinks patterns replacers seen entries with
  | case1 => simp at h
  | case2 seen entry rest hends ih => exact List.mem_cons_of_mem _ (ih h)
  | case3 seen entry rest pair hends hseen ih => exact List.mem_cons_of_mem _ (ih h)
  | case4 seen entry rest pair hends hseen ih =>
    rcases List.mem_cons.mp h with rfl | hrest
    · exact List.mem_cons_self
    · exact List.mem_cons_of_mem _ (ih hrest)

/-- Where no pair comes a second time, every entry whose ends are there is used. -/
theorem usableLinks_eq_filterMap {seen : List (String × String)}
    (hn : (entries.filterMap (ends? patterns replacers)).Nodup)
    (hseen : ∀ pair ∈ entries.filterMap (ends? patterns replacers), pair ∉ seen) :
    usableLinks patterns replacers seen entries =
      entries.filterMap fun v => (ends? patterns replacers v).map (v, ·) := by
  induction entries generalizing seen with
  | nil => rfl
  | cons v rest ih =>
    cases hv : ends? patterns replacers v with
    | none =>
      rw [List.filterMap_cons_none hv] at hn hseen
      have hkeep := ih hn hseen
      simp [usableLinks, hv, hkeep]
    | some pair =>
      rw [List.filterMap_cons_some hv] at hn hseen
      obtain ⟨hpair, hrest⟩ := List.nodup_cons.mp hn
      have hnew : pair ∉ seen := hseen pair List.mem_cons_self
      have hfree : ∀ q ∈ rest.filterMap (ends? patterns replacers), q ∉ pair :: seen := by
        intro q hq hm
        rcases List.mem_cons.mp hm with rfl | hs
        · exact hpair hq
        · exact hseen q (List.mem_cons_of_mem _ hq) hs
      have hkeep := ih hrest hfree
      simp [usableLinks, hv, hnew, hkeep]

/-- Link by link the entries that are used describe the links of a graph. -/
theorem graphLinks_forall₂ (patterns replacers : List Fragment) (entries : List Json) (s : σ) :
    List.Forall₂ (fun l x => x.1.Describes l) (graphLinks patterns replacers entries s).1
      (usedEntries patterns replacers entries) := by
  refine forall₂_zipWith (graphIds_length patterns replacers entries s) ?_
  rintro id ⟨entry, p, r⟩ hused
  obtain ⟨-, hends⟩ := usableLinks_spec.2 _ hused
  obtain ⟨hjoins, -⟩ := ends?_eq_some_iff.mp hends
  exact ⟨hjoins, Json.flagOr_eq _ _, Json.stringOr_eq _ _⟩

theorem graphLinks_described {l : Link} (h : l ∈ (graphLinks patterns replacers entries s).1) :
    ∃ entry ∈ entries, entry.Describes l := by
  obtain ⟨x, hused, hdescribes⟩ :=
    exists_of_forall₂ (graphLinks_forall₂ patterns replacers entries s) h
  exact ⟨x.1, mem_of_mem_usableLinks hused, hdescribes⟩

theorem graphLinks_ne_empty {l : Link} (h : l ∈ (graphLinks patterns replacers entries s).1) :
    l.id ≠ "" :=
  assignIds_ne_empty Prod.fst (graphLinks_ids patterns replacers entries s ▸ List.mem_map_of_mem h)

end Settings
end PasteRules
