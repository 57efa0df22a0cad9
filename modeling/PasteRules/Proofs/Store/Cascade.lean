import PasteRules.Proofs.Store.Outcome
import PasteRules.Proofs.Store.Runs

/-! Removing patterns and replacers, each with the links that use it. The order of removals does not
matter for what is left. It decides which of them returns a link that loses both ends, and that is
always the first that takes one of its ends. -/
namespace PasteRules

inductive Removal where
  | pattern (id : String)
  | replacer (id : String)
  deriving DecidableEq, Repr

def Removal.hits : Removal → Link → Bool
  | .pattern id, l => l.patternId == id
  | .replacer id, l => l.replacerId == id

/-- What removals return one after another: each the links that it hits of those that are left. -/
def reports (links : List Link) : List Removal → List (List Link)
  | [] => []
  | r :: rest => links.filter r.hits :: reports (links.filter (!r.hits ·)) rest

theorem filter_perm {α : Type} (p q : α → Bool) (xs : List α) :
    (xs.filter p ++ (xs.filter (!p ·)).filter q).Perm (xs.filter fun x => p x || q x) := by
  have hp : (xs.filter fun x => p x || q x).filter p = xs.filter p := by
    rw [List.filter_filter]
    apply List.filter_congr
    intro x _
    cases p x <;> rfl
  have hq : (xs.filter fun x => p x || q x).filter (!p ·) = (xs.filter (!p ·)).filter q := by
    rw [List.filter_filter, List.filter_filter]
    apply List.filter_congr
    intro x _
    cases p x <;> cases q x <;> rfl
  rw [← hp, ← hq]
  exact List.filter_append_perm p _

theorem length_reports (links : List Link) (removals : List Removal) :
    (reports links removals).length = removals.length := by
  induction removals generalizing links with
  | nil => rfl
  | cons r rest ih => rw [reports, List.length_cons, ih, List.length_cons]

theorem sublist_of_mem_reports {links gone : List Link} {removals : List Removal}
    (h : gone ∈ reports links removals) : gone.Sublist links := by
  induction removals generalizing links with
  | nil => cases h
  | cons r rest ih =>
    rcases List.mem_cons.mp h with rfl | hrest
    · exact List.filter_sublist
    · exact (ih hrest).trans List.filter_sublist

/-- All removals together return the links that one of them hits. -/
theorem flatten_reports_perm (links : List Link) (removals : List Removal) :
    (reports links removals).flatten.Perm (links.filter fun l => removals.any (·.hits l)) := by
  induction removals generalizing links with
  | nil => simp [reports]
  | cons r rest ih =>
    -- What `r` hits goes first, and the rest hits only what `r` has left.
    have hrest := (ih (links.filter (!r.hits ·))).append_left (links.filter r.hits)
    simp only [reports, List.flatten_cons, List.any_cons]
    exact hrest.trans (filter_perm _ _ links)

/-- A link is returned by the first removal that hits it. -/
theorem mem_reports {links : List Link} {removals : List Removal} {i : Nat} {l : Link} :
    (∃ gone, (reports links removals)[i]? = some gone ∧ l ∈ gone) ↔
      l ∈ links ∧ i < removals.length ∧ removals.findIdx (·.hits l) = i := by
  induction removals generalizing links i with
  | nil => simp [reports]
  | cons r rest ih =>
    cases i with
    | zero => cases hr : r.hits l <;> simp [reports, List.findIdx_cons, hr]
    | succ i =>
      rw [reports, List.getElem?_cons_succ, ih]
      cases hr : r.hits l <;> simp [List.findIdx_cons, hr]

namespace Store

variable {σ : Type} {s : Store σ} {r : Removal} {removals : List Removal}

def remove (s : Store σ) : Removal → Except Fault (List Link × Store σ)
  | .pattern id => s.removePattern id
  | .replacer id => s.removeReplacer id

/-- Removals one after another: what each of them returned, and the store that is left. The first
that fails ends them. -/
def removeAll (s : Store σ) : List Removal → Except Fault (List (List Link) × Store σ)
  | [] => .ok ([], s)
  | r :: rest => do
    let (gone, s) ← s.remove r
    let (later, s) ← s.removeAll rest
    return (gone :: later, s)

def Has (s : Store σ) : Removal → Prop
  | .pattern id => id ∈ s.patterns.map Fragment.id
  | .replacer id => id ∈ s.replacers.map Fragment.id

/-- The store without some fragments and without the links that use them, all else in its order, and
with a revision counted for each. -/
def without (s : Store σ) (removals : List Removal) : Store σ :=
  { s with
    patterns := s.patterns.filter fun f => .pattern f.id ∉ removals
    replacers := s.replacers.filter fun f => .replacer f.id ∉ removals
    links := s.links.filter fun l => !removals.any (·.hits l)
    revision := s.revision + removals.length }

theorem without_nil (s : Store σ) : s.without [] = s := by
  simp [without]

theorem without_cons (s : Store σ) (r : Removal) (rest : List Removal) :
    (s.without [r]).without rest = s.without (r :: rest) := by
  have hmem (r' : Removal) : (decide (r' ∉ rest) && decide (r' ∉ [r])) =
      decide (r' ∉ r :: rest) := by
    simp [Bool.and_comm]
  have hany (l : Link) : (!rest.any (·.hits l) && !([r].any (·.hits l))) =
      !(r :: rest).any (·.hits l) := by
    simp [Bool.and_comm]
  have hlength : s.revision + [r].length + rest.length = s.revision + (r :: rest).length := by
    simp only [List.length_cons, List.length_nil]
    omega
  simp only [without, List.filter_filter, hmem, hany, hlength]

/-- What is left depends on what is removed, and not on the order. -/
theorem without_congr {order : List Removal} (h : order.Perm removals) :
    s.without order = s.without removals := by
  have hmem : ∀ r, r ∈ order ↔ r ∈ removals := fun r => h.mem_iff
  have hany : ∀ l : Link, order.any (·.hits l) = removals.any (·.hits l) := fun l => h.any_eq
  simp only [without, hmem, hany, h.length_eq]

theorem Sound.without (hs : s.Sound) (removals : List Removal) : (s.without removals).Sound := by
  refine hs.restrict List.filter_sublist List.filter_sublist List.filter_sublist ?_
  intro l hl
  obtain ⟨hmem, hnot⟩ := List.mem_filter.mp hl
  have hmissed : ∀ r ∈ removals, r.hits l = false := by simpa using hnot
  obtain ⟨hp, hr⟩ := hs.ends l hmem
  constructor
  · obtain ⟨f, hf, hid⟩ := List.mem_map.mp hp
    refine List.mem_map.mpr ⟨f, List.mem_filter.mpr ⟨hf, decide_eq_true fun hgone => ?_⟩, hid⟩
    simpa [Removal.hits, hid] using hmissed _ hgone
  · obtain ⟨f, hf, hid⟩ := List.mem_map.mp hr
    refine List.mem_map.mpr ⟨f, List.mem_filter.mpr ⟨hf, decide_eq_true fun hgone => ?_⟩, hid⟩
    simpa [Removal.hits, hid] using hmissed _ hgone

theorem Has.without (h : s.Has r) (hr : r ∉ removals) : (s.without removals).Has r := by
  cases r with
  | pattern id =>
    obtain ⟨f, hf, rfl⟩ := List.mem_map.mp h
    exact List.mem_map_of_mem (List.mem_filter.mpr ⟨hf, decide_eq_true hr⟩)
  | replacer id =>
    obtain ⟨f, hf, rfl⟩ := List.mem_map.mp h
    exact List.mem_map_of_mem (List.mem_filter.mpr ⟨hf, decide_eq_true hr⟩)

/-- Where identifiers tell the fragments apart, a removal takes what it names, returns the links
that it hits and leaves the rest. -/
theorem remove_eq (hs : s.Sound) (h : s.Has r) :
    s.remove r = .ok (s.links.filter r.hits, s.without [r]) := by
  have hkept (id id' : String) : (!(id == id')) = decide (id ≠ id') := by
    rw [beq_eq_decide, decide_not]
  cases r with
  | pattern id =>
    have herase := eraseP_eq_filter (k := Fragment.id) hs.patternIds id
    have hhits : (Removal.pattern id).hits = fun l => l.patternId == id := rfl
    rw [remove, removePattern_eq h, herase, hhits]
    simp [Store.without, bump, hhits, hkept]
  | replacer id =>
    have herase := eraseP_eq_filter (k := Fragment.id) hs.replacerIds id
    have hhits : (Removal.replacer id).hits = fun l => l.replacerId == id := rfl
    rw [remove, removeReplacer_eq h, herase, hhits]
    simp [Store.without, bump, hhits, hkept]

theorem removeAll_eq (hs : s.Sound) (hn : removals.Nodup) (h : ∀ r ∈ removals, s.Has r) :
    s.removeAll removals = .ok (reports s.links removals, s.without removals) := by
  induction removals generalizing s with
  | nil => rw [removeAll, reports, without_nil]
  | cons r rest ih =>
    obtain ⟨hr, hrest⟩ := List.nodup_cons.mp hn
    have hstep := remove_eq hs (h r List.mem_cons_self)
    have hstill : ∀ r' ∈ rest, (s.without [r]).Has r' := by
      intro r' hr'
      apply (h r' (List.mem_cons_of_mem _ hr')).without
      intro hsame
      exact hr (List.mem_singleton.mp hsame ▸ hr')
    have hlater := ih (hs.without [r]) hrest hstill
    have hlinks : (s.without [r]).links = s.links.filter (!r.hits ·) := by simp [Store.without]
    rw [without_cons, hlinks] at hlater
    rw [removeAll, hstep]
    simp only [bind, Except.bind, hlater]
    rfl

/-- The answers to removals report each link that loses an end once, in one of them, and no other
link. Each is in the order of the links. -/
structure Reports (s : Store σ) (removals : List Removal) (answers : List (List Link)) : Prop where
  length : answers.length = removals.length
  perm : answers.flatten.Perm (s.links.filter fun l => removals.any (·.hits l))
  once : ∀ l ∈ s.links, (∃ r ∈ removals, r.hits l = true) →
    ∃! i : Nat, ∃ gone, answers[i]? = some gone ∧ l ∈ gone
  inOrder : ∀ gone ∈ answers, gone.Sublist s.links

/-- Removals of different fragments that are there succeed and leave the same store in any order,
and in any order they report each link that loses an end once. -/
theorem removals_in_any_order (hs : s.Sound) (hn : removals.Nodup) (h : ∀ r ∈ removals, s.Has r)
    {order : List Removal} (horder : order.Perm removals) :
    ∃ answers, s.removeAll order = .ok (answers, s.without removals) ∧
      s.Reports order answers := by
  have hall := removeAll_eq hs (horder.nodup_iff.mpr hn) fun r hr => h r (horder.mem_iff.mp hr)
  rw [without_congr horder] at hall
  refine ⟨reports s.links order, hall, ?_⟩
  constructor
  · exact length_reports s.links order
  · exact flatten_reports_perm s.links order
  · intro l hl hhit
    have hfirst : order.findIdx (·.hits l) < order.length :=
      List.findIdx_lt_length_of_exists hhit
    refine ⟨order.findIdx (·.hits l), mem_reports.mpr ⟨hl, hfirst, rfl⟩, ?_⟩
    intro i hi
    exact (mem_reports.mp hi).2.2.symm
  · intro gone hgone
    exact sublist_of_mem_reports hgone

def crossed : Store Unit :=
  ⟨[⟨"p-1", "a"⟩, ⟨"p-2", "b"⟩], [⟨"r-1", "X"⟩, ⟨"r-2", "Y"⟩],
    [⟨"l-1", "p-1", "r-1", true, ""⟩, ⟨"l-2", "p-1", "r-2", true, ""⟩,
      ⟨"l-3", "p-2", "r-1", true, ""⟩, ⟨"l-4", "p-2", "r-2", true, ""⟩], 0, ()⟩

theorem crossed_sound : crossed.Sound :=
  ⟨by decide, by decide, by decide, by decide, by decide⟩

/-- The link between the two that go is returned with the first of them. -/
theorem crossed_removals :
    ∃ answers answers',
      crossed.removeAll [.pattern "p-1", .replacer "r-1"] =
        .ok (answers, crossed.without [.pattern "p-1", .replacer "r-1"]) ∧
      crossed.removeAll [.replacer "r-1", .pattern "p-1"] =
        .ok (answers', crossed.without [.pattern "p-1", .replacer "r-1"]) ∧
      crossed.Reports [.pattern "p-1", .replacer "r-1"] answers ∧
      crossed.Reports [.replacer "r-1", .pattern "p-1"] answers' ∧
      answers.map (·.map Link.id) = [["l-1", "l-2"], ["l-3"]] ∧
      answers'.map (·.map Link.id) = [["l-1", "l-3"], ["l-2"]] ∧
      (crossed.without [.pattern "p-1", .replacer "r-1"]).links.map Link.id = ["l-4"] := by
  have hn : [Removal.pattern "p-1", Removal.replacer "r-1"].Nodup := by decide
  have h : ∀ r ∈ [Removal.pattern "p-1", Removal.replacer "r-1"], crossed.Has r := by
    intro r hr
    rcases List.mem_pair.mp hr with rfl | rfl
    · exact List.mem_cons_self
    · exact List.mem_cons_self
  obtain ⟨answers, hall, hreports⟩ := removals_in_any_order crossed_sound hn h (List.Perm.refl _)
  obtain ⟨answers', hall', hreports'⟩ :=
    removals_in_any_order crossed_sound hn h (List.Perm.swap _ _ [])
  refine ⟨answers, answers', hall, hall', hreports, hreports', ?_, ?_, rfl⟩
  · obtain ⟨rfl, -⟩ := Prod.mk.inj (Except.ok.inj hall)
    rfl
  · obtain ⟨rfl, -⟩ := Prod.mk.inj (Except.ok.inj hall')
    rfl

end Store
end PasteRules
