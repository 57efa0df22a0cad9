import PasteRules.Proofs.Store.Editing
import PasteRules.Proofs.Store.Graph

/-! Looking up what an edit names. A lookup succeeds if and only if the identifier is there, and
joining a pair looks up its pattern, then its replacer, then the pair. -/
namespace PasteRules

/-- The outcome of looking up an identifier among those that are there. -/
inductive Lookup {α : Type} (ids : List String) (id : String) : Except Fault α → Prop
  | found (x : α) (h : id ∈ ids) : Lookup ids id (.ok x)
  | missing (h : id ∉ ids) : Lookup ids id (.error (.unrecognisedId id))

namespace Lookup

variable {α : Type} {k : α → String} {xs : List α} {x : α} {id : String}

theorem of_find?_eq_some (h : xs.find? (k · == id) = some x) : Lookup (xs.map k) id (.ok x) := by
  have hid : k x = id := by simpa using List.find?_some h
  exact .found x (hid ▸ List.mem_map_of_mem (List.mem_of_find?_eq_some h))

theorem of_find?_eq_none (h : xs.find? (k · == id) = none) :
    Lookup (xs.map k) id (.error (.unrecognisedId id) : Except Fault α) :=
  .missing (by simpa using h)

end Lookup

namespace Store

variable {σ : Type}

theorem lookup_pattern (s : Store σ) (id : String) :
    Lookup (s.patterns.map Fragment.id) id (s.getPattern id) := by
  unfold getPattern
  split
  · next hp => exact .of_find?_eq_some hp
  · next hp => exact .of_find?_eq_none hp

theorem lookup_replacer (s : Store σ) (id : String) :
    Lookup (s.replacers.map Fragment.id) id (s.getReplacer id) := by
  unfold getReplacer
  split
  · next hr => exact .of_find?_eq_some hr
  · next hr => exact .of_find?_eq_none hr

theorem lookup_link (s : Store σ) (id : String) :
    Lookup (s.links.map Link.id) id (s.getLink id) := by
  unfold getLink
  split
  · next hl => exact .of_find?_eq_some hl
  · next hl => exact .of_find?_eq_none hl

theorem getLink_ok {s : Store σ} {id : String} {l : Link} (h : s.getLink id = .ok l) :
    s.links.find? (·.id == id) = some l := by
  unfold getLink Link.find? at h
  split at h
  · next l' hl => exact hl.trans (congrArg some (Except.ok.inj h))
  · cases h

theorem findLink_none {s : Store σ} {p r : String} (h : s.findLink p r = none) :
    (p, r) ∉ s.links.map Link.pair := by
  intro hm
  obtain ⟨l, hl, he⟩ := List.mem_map.mp hm
  obtain ⟨rfl, rfl⟩ : l.patternId = p ∧ l.replacerId = r := by simpa [Link.pair] using he
  have hjoin := List.find?_eq_none.mp h l hl
  simp [Link.joins] at hjoin

/-- A pair that is joined is left alone: the pattern is looked up first, then the replacer, then the
pair, and nothing is drawn before. -/
theorem addLink_cases [IdSupply σ] (s : Store σ) (p r : String) (enabled : Bool)
    (comment : String) :
    (p ∉ s.patterns.map Fragment.id ∧
      (Editing.addLink p r enabled comment).exec s = (.error (.unrecognisedId p), s)) ∨
    (p ∈ s.patterns.map Fragment.id ∧ r ∉ s.replacers.map Fragment.id ∧
      (Editing.addLink p r enabled comment).exec s = (.error (.unrecognisedId r), s)) ∨
    (p ∈ s.patterns.map Fragment.id ∧ r ∈ s.replacers.map Fragment.id ∧
      (p, r) ∈ s.links.map Link.pair ∧
      (Editing.addLink p r enabled comment).exec s = (.ok none, s)) ∨
    (p ∈ s.patterns.map Fragment.id ∧ r ∈ s.replacers.map Fragment.id ∧
      (p, r) ∉ s.links.map Link.pair ∧
      ∃ id ids, id ∉ s.links.map Link.id ∧
        (∃ suffix, id = identifier Identifier.linkStem suffix) ∧
        (Editing.addLink p r enabled comment).exec s = (.ok (some ⟨id, p, r, enabled, comment⟩),
          bump { s with links := s.links ++ [⟨id, p, r, enabled, comment⟩], ids })) := by
  have hp := s.lookup_pattern p
  have hr := s.lookup_replacer r
  rw [Editing.exec_addLink]
  generalize s.getPattern p = foundPattern at hp
  generalize s.getReplacer r = foundReplacer at hr
  cases hp with
  | missing hp => exact .inl ⟨hp, rfl⟩
  | found fp hp =>
    cases hr with
    | missing hr => exact .inr (.inl ⟨hp, hr, rfl⟩)
    | found fr hr =>
      cases hl : s.findLink p r with
      | some l =>
        have hjoined : (p, r) ∈ s.links.map Link.pair := by
          refine List.mem_map.mpr ⟨l, List.mem_of_find?_eq_some hl, ?_⟩
          simpa [Link.joins, Link.pair] using List.find?_some hl
        exact .inr (.inr (.inl ⟨hp, hr, hjoined, rfl⟩))
      | none =>
        have hfresh := IdSupply.draw_not_mem Identifier.linkStem (s.links.map Link.id) s.ids
        have hdrawn := IdSupply.draw_form Identifier.linkStem (s.links.map Link.id) s.ids
        exact .inr (.inr (.inr ⟨hp, hr, findLink_none hl, _, _, hfresh, hdrawn, rfl⟩))

end Store
end PasteRules
