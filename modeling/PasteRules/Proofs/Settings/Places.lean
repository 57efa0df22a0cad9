import PasteRules.Proofs.Settings.Consistent

/-! Settings of the older forms, which pair their entries by place: what links they come to, place
by place. -/
namespace PasteRules

namespace Settings

variable {σ : Type} [IdSupply σ]

theorem fragments_texts (stem : String) (entries : List Json) (s : σ) :
    (fragments stem entries s).1.map Fragment.text = entries.map Json.entryText := by
  have hl := assignIds_length stem (entries.map ownId?) s
  rw [List.length_map] at hl
  exact map_zipWith_right (g := Fragment.text) (k := Json.entryText) (fun _ _ => rfl) hl

theorem nodup_zip {α β : Type} {xs : List α} (h : xs.Nodup) (ys : List β) : (xs.zip ys).Nodup := by
  induction xs generalizing ys with
  | nil => exact .nil
  | cons x xs ih =>
    obtain ⟨hx, hxs⟩ := List.nodup_cons.mp h
    cases ys with
    | nil => exact .nil
    | cons y ys => exact List.nodup_cons.mpr ⟨fun hm => hx (List.of_mem_zip hm).1, ih hxs ys⟩

/-- Pairs that do not repeat are all kept. -/
theorem distinctPairs_eq_self {seen : List (String × String)} {pairs : List (Nat × String × String)}
    (hn : (pairs.map Prod.snd).Nodup) (hd : ∀ x ∈ pairs, x.2 ∉ seen) :
    distinctPairs (· == ·) seen pairs = pairs := by
  induction pairs generalizing seen with
  | nil => rfl
  | cons x rest ih =>
    obtain ⟨i, p, r⟩ := x
    obtain ⟨hx, hrest⟩ := List.nodup_cons.mp hn
    have hnew : (p, r) ∉ seen := hd _ List.mem_cons_self
    have hany : seen.any (fun q => q.1 == p && q.2 == r) = false := by
      rw [List.any_eq_false]
      intro q hq hsame
      obtain ⟨rfl, rfl⟩ : q.1 = p ∧ q.2 = r := by simpa using hsame
      exact hnew hq
    have hfree : ∀ y ∈ rest, y.2 ∉ (p, r) :: seen := by
      intro y hy hm
      rcases List.mem_cons.mp hm with he | hs
      · exact hx (List.mem_map.mpr ⟨y, hy, he⟩)
      · exact hd y (List.mem_cons_of_mem _ hy) hs
    have hkeep := ih hrest hfree
    simp [distinctPairs, hany, hkeep]

variable {patterns replacers : List Fragment}

/-- Patterns with identifiers of their own make pairs that do not repeat. -/
theorem placePairs_eq (hp : (patterns.map Fragment.id).Nodup) :
    placePairs patterns replacers =
      alignedPairs (patterns.map Fragment.id) (replacers.map Fragment.id) := by
  refine distinctPairs_eq_self ?_ (by simp)
  have hsnd : (alignedPairs (patterns.map Fragment.id) (replacers.map Fragment.id)).map Prod.snd =
      (patterns.map Fragment.id).zip (replacers.map Fragment.id) :=
    List.ext_getElem? fun i => by
      simp only [alignedPairs, List.getElem?_map, List.getElem?_mapIdx, Option.map_map]
      exact congrFun Option.map_id _
  rw [hsnd]
  exact nodup_zip hp _

variable (flags comments : List Json) (s : σ)

theorem alignedLinks_length (hp : (patterns.map Fragment.id).Nodup) :
    (alignedLinks patterns replacers flags comments s).1.length =
      min patterns.length replacers.length := by
  have hids := congrArg List.length (alignedLinks_ids patterns replacers flags comments s)
  rw [linkIds_length, placePairs_eq hp, List.length_map] at hids
  rw [hids]
  simp [alignedPairs]

/-- The link at a place joins the fragments at that place. -/
theorem alignedLinks_getElem? (hp : (patterns.map Fragment.id).Nodup) {i : Nat} {p r : Fragment}
    (hpi : patterns[i]? = some p) (hri : replacers[i]? = some r) :
    ∃ id, (alignedLinks patterns replacers flags comments s).1[i]? =
      some ⟨id, p.id, r.id, (flags[i]?.bind Json.flag?).getD true,
        (comments[i]?.bind Json.string?).getD ""⟩ := by
  have hpair : (placePairs patterns replacers)[i]? = some (i, p.id, r.id) := by
    rw [placePairs_eq hp]
    simp [alignedPairs, List.getElem?_mapIdx, List.getElem?_zip_eq_some, hpi, hri]
  obtain ⟨hi, -⟩ := List.getElem?_eq_some_iff.mp hpair
  have hlen := linkIds_length (placePairs patterns replacers).length s
  have hid : i < (linkIds (placePairs patterns replacers).length s).1.length := by omega
  have hflag : (flags[i]?.bind Json.flag?).getD true =
      (flags[i]?.map (·.flagOr true)).getD true := by
    cases flags[i]? with
    | none => rfl
    | some v => exact (v.flagOr_eq true).symm
  have hcomment : (comments[i]?.bind Json.string?).getD "" =
      (comments[i]?.map (·.stringOr "")).getD "" := by
    cases comments[i]? with
    | none => rfl
    | some v => exact (v.stringOr_eq "").symm
  refine ⟨(linkIds (placePairs patterns replacers).length s).1[i], ?_⟩
  change (List.zipWith _ (linkIds (placePairs patterns replacers).length s).1
    (placePairs patterns replacers))[i]? = _
  rw [List.getElem?_zipWith, List.getElem?_eq_getElem hid, hpair, hflag, hcomment]

/-! ### Whole settings -/

variable {blob saved : Json}

theorem migrate_texts (blob : Json) (s : σ) :
    (migrate blob s).1.patterns.map Fragment.text =
        (blob.field "patterns").items.map Json.entryText ∧
      (migrate blob s).1.replacers.map Fragment.text =
        (blob.field "replacers").items.map Json.entryText := by
  rw [migrate_eq]
  exact ⟨fragments_texts .., fragments_texts ..⟩

/-- Settings of an older form are joined by place. -/
theorem migrate_links_of_older (h : Generation.ofJson blob ≠ .linkGraph) (s : σ) :
    ∃ s' : σ, (migrate blob s).1.links =
      (alignedLinks (migrate blob s).1.patterns (migrate blob s).1.replacers
        (blob.field "enabled").items (blob.field "comments").items s').1 := by
  obtain ⟨s', hlinks⟩ := migrate_links blob s
  refine ⟨s', hlinks.trans ?_⟩
  unfold migratedLinks
  split
  · contradiction
  · rfl

/-- Migration has joined what there is to join, and no default links are added. -/
theorem load_of_older (h : Generation.ofJson (overBuiltIn saved) ≠ .linkGraph) (s : σ) :
    load saved s = migrate (overBuiltIn saved) s := by
  rw [load_eq]
  refine withDefaultLinks_of_done _ fun hnil => ?_
  obtain ⟨s', hlinks⟩ := migrate_links_of_older h s
  have hcount := congrArg List.length hlinks
  rw [hnil, alignedLinks_length _ _ s' (migrate_consistent _ s).graph.patternIds] at hcount
  rcases Nat.min_eq_zero_iff.mp hcount.symm with hp | hr
  · exact .inl (List.length_eq_zero_iff.mp hp)
  · exact .inr (List.length_eq_zero_iff.mp hr)

end Settings
end PasteRules
