import PasteRules.Proofs.Settings.Entities
import PasteRules.Proofs.Store.Runs

/-! Stores in which nothing has an empty identifier. No edit makes another store of such a one. -/
namespace PasteRules.Store

variable {σ : Type}

structure Named (s : Store σ) : Prop where
  patterns : "" ∉ s.patterns.map Fragment.id
  replacers : "" ∉ s.replacers.map Fragment.id
  links : "" ∉ s.links.map Link.id

theorem not_mem_map_append_singleton {α : Type} {key : α → String} {xs : List α} {x : α}
    (h : "" ∉ xs.map key) (hx : key x ≠ "") : "" ∉ (xs ++ [x]).map key := by
  rw [List.map_append, List.mem_append, not_or]
  exact ⟨h, by simpa using hx.symm⟩

theorem Named.of_subset {s s' : Store σ} (h : s.Named)
    (hp : s'.patterns.map Fragment.id ⊆ s.patterns.map Fragment.id)
    (hr : s'.replacers.map Fragment.id ⊆ s.replacers.map Fragment.id)
    (hl : s'.links.map Link.id ⊆ s.links.map Link.id) : s'.Named :=
  ⟨fun hm => h.patterns (hp hm), fun hm => h.replacers (hr hm), fun hm => h.links (hl hm)⟩

/-- An edit brings no empty identifier: what it adds has a drawn one. -/
theorem Effect.named {s s' : Store σ} {e : Edit} (h : s.Effect e s') (hs : s.Named) : s'.Named := by
  have hdrawn : ∀ {stem id : String}, (∃ suffix, id = identifier stem suffix) → id ≠ "" := by
    rintro stem id ⟨suffix, rfl⟩
    exact identifier_ne_empty stem suffix
  cases h with
  | unchanged => exact hs
  | addPattern _ drawn =>
    exact ⟨not_mem_map_append_singleton hs.patterns (hdrawn drawn), hs.replacers, hs.links⟩
  | addReplacer _ drawn =>
    exact ⟨hs.patterns, not_mem_map_append_singleton hs.replacers (hdrawn drawn), hs.links⟩
  | addLink _ drawn =>
    exact ⟨hs.patterns, hs.replacers, not_mem_map_append_singleton hs.links (hdrawn drawn)⟩
  | editPattern =>
    exact hs.of_subset (List.Perm.of_eq (updateFirst_map _ _ _ (by simp) _)).subset
      (.refl _) (.refl _)
  | editReplacer =>
    exact hs.of_subset (.refl _)
      (List.Perm.of_eq (updateFirst_map _ _ _ (by simp) _)).subset (.refl _)
  | setLinkEnabled | setLinkComment =>
    exact hs.of_subset (.refl _) (.refl _)
      (List.Perm.of_eq (updateFirst_map _ _ _ (by simp) _)).subset
  | removePattern =>
    exact hs.of_subset (List.eraseP_sublist.map _).subset (.refl _)
      (List.filter_sublist.map _).subset
  | removeReplacer =>
    exact hs.of_subset (.refl _) (List.eraseP_sublist.map _).subset
      (List.filter_sublist.map _).subset
  | removeLink | loseLink =>
    exact hs.of_subset (.refl _) (.refl _) (List.eraseP_sublist.map _).subset
  | pruneDanglingLinks =>
    exact hs.of_subset (.refl _) (.refl _) (List.filter_sublist.map _).subset
  | moveLink found place =>
    exact hs.of_subset (.refl _) (.refl _) ((perm_moved found place).map _).subset

end PasteRules.Store
