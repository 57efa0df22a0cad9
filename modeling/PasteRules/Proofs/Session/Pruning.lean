import Mathlib.Data.Finset.Card
import PasteRules.Proofs.Rules.Gather
import PasteRules.Proofs.Session.Cache
import PasteRules.Proofs.Store.Runs

/-! Pruning looks for the links with a missing end and then removes links by their identifiers. So a
link with both ends goes too if it shares its identifier with one that lacks an end; where none
does, exactly the dangling links go, and the rules stay. -/
namespace PasteRules

theorem nodup_eraseDups (ids : List String) : ids.eraseDups.Nodup := by
  induction hn : ids.length using Nat.strongRecOn generalizing ids with
  | ind n ih =>
    cases ids with
    | nil => exact .nil
    | cons id rest =>
      have hshorter : (rest.filter fun b => !b == id).length < n := by
        have := List.length_filter_le (fun b => !b == id) rest
        simp only [List.length_cons] at hn
        omega
      rw [List.eraseDups_cons, List.nodup_cons]
      exact ⟨by simp [List.mem_eraseDups], ih _ hshorter _ rfl⟩

/-- Without repetitions, as many elements are left as there are different ones. -/
theorem length_eraseDups (ids : List String) : ids.eraseDups.length = ids.toFinset.card := by
  rw [← List.toFinset_card_of_nodup (nodup_eraseDups ids)]
  congr 1
  ext id
  simp

theorem toFinset_card_eq_length_iff {ids : List String} :
    ids.toFinset.card = ids.length ↔ ids.Nodup :=
  Multiset.toFinset_card_eq_card_iff_nodup.trans Multiset.coe_nodup

namespace Store

variable {σ : Type}

def danglingIds (s : Store σ) : List String := s.danglingLinks.map Link.id

/-- No link with both ends shares its identifier with one that lacks an end. -/
def DanglingApart (s : Store σ) : Prop :=
  ∀ l ∈ s.links, s.resolves l = true → l.id ∉ s.danglingIds

instance (s : Store σ) : Decidable s.DanglingApart :=
  inferInstanceAs (Decidable (∀ l ∈ s.links, s.resolves l = true → l.id ∉ s.danglingIds))

/-- What pruning leaves of a store. Its count is that of the different identifiers. -/
structure Pruned (s : Store σ) (count : Nat) (s' : Store σ) : Prop where
  links : s'.links = s.links.filter fun l => l.id ∉ s.danglingIds
  patterns : s'.patterns = s.patterns
  replacers : s'.replacers = s.replacers
  ids : s'.ids = s.ids
  count : count = s.danglingIds.toFinset.card
  revision : s'.revision = if s'.links = s.links then s.revision else s.revision + 1
  undangled : s'.danglingLinks = []
  rules : ∀ rules, s.rules = .ok rules →
    s'.rules = .ok (rules.filter fun r => r.linkId ∉ s.danglingIds)

theorem mem_danglingIds_of_not_resolves {s : Store σ} {l : Link} (hl : l ∈ s.links)
    (h : s.resolves l = false) : l.id ∈ s.danglingIds :=
  List.mem_map_of_mem (List.mem_filter.mpr ⟨hl, by simp [h]⟩)

theorem exists_of_mem_danglingIds {s : Store σ} {id : String} (h : id ∈ s.danglingIds) :
    ∃ l ∈ s.links, s.resolves l = false ∧ l.id = id := by
  obtain ⟨l, hl, hid⟩ := List.mem_map.mp h
  obtain ⟨hmem, hnot⟩ := List.mem_filter.mp hl
  exact ⟨l, hmem, by simpa using hnot, hid⟩

/-- Pruning is to drop the links whose identifiers were found, and to count a revision if there are
any. -/
theorem pruneDanglingLinks_eq (s : Store σ) :
    s.pruneDanglingLinks =
      if s.danglingIds = [] then (0, s)
      else (s.danglingIds.eraseDups.length,
        bump { s with links := s.links.filter fun l => l.id ∉ s.danglingIds }) := by
  have hempty : s.danglingIds.eraseDups.isEmpty = true ↔ s.danglingIds = [] := by
    rw [List.isEmpty_iff, List.eq_nil_iff_forall_not_mem, List.eq_nil_iff_forall_not_mem]
    simp
  have hkept : s.links.filter (fun l => !s.danglingIds.eraseDups.contains l.id) =
      s.links.filter fun l => l.id ∉ s.danglingIds := by
    refine List.filter_congr fun l _ => ?_
    simp
  rw [pruneDanglingLinks_eq_ite]
  change (if s.danglingIds.eraseDups.isEmpty = true then _ else _) = _
  simp only [hempty]
  split
  · rfl
  · rw [← hkept]
    rfl

theorem filter_danglingIds_eq_self_iff {s : Store σ} :
    (s.links.filter fun l => l.id ∉ s.danglingIds) = s.links ↔ s.danglingIds = [] := by
  constructor
  · intro h
    by_contra hne
    obtain ⟨id, hid⟩ := List.exists_mem_of_ne_nil _ hne
    obtain ⟨l, hl, -, rfl⟩ := exists_of_mem_danglingIds hid
    rw [← h] at hl
    simpa [hid] using (List.mem_filter.mp hl).2
  · intro h
    simp [h]

/-- The rest of a store resolves its links as the whole did, and gives them the same rules. -/
theorem pruned (s : Store σ) : s.Pruned s.pruneDanglingLinks.1 s.pruneDanglingLinks.2 := by
  rw [pruneDanglingLinks_eq]
  split
  · next h =>
    exact {
      links := (filter_danglingIds_eq_self_iff.mpr h).symm
      patterns := rfl
      replacers := rfl
      ids := rfl
      count := by rw [h]; rfl
      revision := (if_pos rfl).symm
      undangled := by simpa [danglingIds] using h
      rules := fun rules hrules => by simp [h, hrules] }
  · next h =>
    have hless : (s.links.filter fun l => l.id ∉ s.danglingIds) ≠ s.links := fun heq =>
      h (filter_danglingIds_eq_self_iff.mp heq)
    exact {
      links := rfl
      patterns := rfl
      replacers := rfl
      ids := rfl
      count := length_eraseDups _
      revision := (if_neg hless).symm
      undangled := by
        refine List.filter_eq_nil_iff.mpr fun l hl => ?_
        obtain ⟨hmem, hapart⟩ := List.mem_filter.mp hl
        have hends : s.resolves l = true := by
          by_contra hnot
          have hdangling := mem_danglingIds_of_not_resolves hmem (Bool.eq_false_iff.mpr hnot)
          simp [hdangling] at hapart
        change ¬(!s.resolves l) = true
        simp [hends]
      rules := fun rules hrules =>
        gather_filter (fun l _ r hr => by rw [ruleOf_linkId hr]) hrules }

theorem Pruned.again {s s' : Store σ} {count : Nat} (h : s.Pruned count s') :
    s'.pruneDanglingLinks = (0, s') := pruneDanglingLinks_of_nil h.undangled

theorem Pruned.links_eq_iff {s s' : Store σ} {count : Nat} (h : s.Pruned count s') :
    s'.links = s.links.filter s.resolves ↔ s.DanglingApart := by
  rw [h.links]
  constructor
  · intro hsame l hl hends
    have hkept := List.mem_filter.mpr ⟨hl, hends⟩
    rw [← hsame] at hkept
    simpa using (List.mem_filter.mp hkept).2
  · intro hapart
    refine List.filter_congr fun l hl => ?_
    cases hends : s.resolves l with
    | true => simpa using hapart l hl hends
    | false => simpa using mem_danglingIds_of_not_resolves hl hends

/-- The count is that of the links that went, as long as these have different identifiers. -/
theorem Pruned.count_eq_iff {s s' : Store σ} {count : Nat} (h : s.Pruned count s') :
    s'.links.length + count = s.links.length ↔
      ((s.links.filter fun l => l.id ∈ s.danglingIds).map Link.id).Nodup := by
  have hids : s.danglingIds.toFinset =
      ((s.links.filter fun l => l.id ∈ s.danglingIds).map Link.id).toFinset := by
    ext id
    simp only [List.mem_toFinset, List.mem_map, List.mem_filter, decide_eq_true_eq]
    constructor
    · intro hid
      obtain ⟨l, hl, -, rfl⟩ := exists_of_mem_danglingIds hid
      exact ⟨l, ⟨hl, hid⟩, rfl⟩
    · rintro ⟨l, ⟨-, hid⟩, rfl⟩
      exact hid
  have hparts := List.length_eq_length_filter_add (l := s.links) fun l => l.id ∈ s.danglingIds
  have hlinks := congrArg List.length h.links
  simp only [decide_not] at hlinks
  rw [h.count, hids, ← toFinset_card_eq_length_iff, List.length_map]
  omega

/-- A dangling link has no rule, so no rule goes with it, and no fault either. -/
theorem Pruned.rules_eq {s s' : Store σ} {count : Nat} (h : s.Pruned count s')
    (hapart : s.DanglingApart) : s'.rules = s.rules := by
  have hrule : s'.ruleOf = s.ruleOf := by
    funext l
    unfold ruleOf
    rw [h.patterns, h.replacers]
  rw [rules_eq_gather, rules_eq_gather, hrule, h.links_eq_iff.mpr hapart,
    ← List.filterMap_eq_filter]
  refine (gather_filterMap fun l _ => ?_).symm
  cases hends : s.resolves l with
  | true => simp [Option.guard, hends]
  | false => simpa [Option.guard, hends] using ruleOf_of_not_resolves hends

end Store

namespace Session

variable {σ : Type} [IdSupply σ]

/-- A save prunes the store, reports nothing of that, and gives the settings that are left. -/
theorem next_save_eq (s : Session σ) :
    s.next .save =
      (.ok (.answer (.blob
        (Settings.toJsonWith s.store.pruneDanglingLinks.2.fields s.active s.debug))),
        { s with store := s.store.pruneDanglingLinks.2 }) := rfl

theorem Coherent.transform_after_save {s : Session σ} (h : s.Coherent)
    (hapart : s.store.DanglingApart) (text : Option String) :
    ((s.next .save).2.next (.transform text)).1 = (s.next (.transform text)).1 := by
  have hsaved : Coherent (s.next .save).2 := by
    have hpruned := h.edit (e := .pruneDanglingLinks) rfl
    rwa [Store.edit_pruneDanglingLinks] at hpruned
  have hrules : (s.next .save).2.store.rules = s.store.rules := s.store.pruned.rules_eq hapart
  rw [hsaved.next_transform, h.next_transform, hrules]

/-- Pruning and saving drop the links that have the identifier of a dangling link, and count these
identifiers. That drops exactly the dangling links if and only if no other link shares an identifier
with one, and the count is that of the dropped links if and only if their identifiers differ. In the
first case the rules stay, and every text is transformed as before. -/
theorem prune_by_identifier {s : Session σ} (h : s.Coherent) :
    s.store.Pruned s.store.pruneDanglingLinks.1 s.store.pruneDanglingLinks.2 ∧
      s.store.pruneDanglingLinks.2.pruneDanglingLinks = (0, s.store.pruneDanglingLinks.2) ∧
      (s.store.pruneDanglingLinks.2.links = s.store.links.filter s.store.resolves ↔
        s.store.DanglingApart) ∧
      (s.store.pruneDanglingLinks.2.links.length + s.store.pruneDanglingLinks.1 =
          s.store.links.length ↔
        ((s.store.links.filter fun l => l.id ∈ s.store.danglingIds).map Link.id).Nodup) ∧
      s.next .save =
        (.ok (.answer (.blob
          (Settings.toJsonWith s.store.pruneDanglingLinks.2.fields s.active s.debug))),
          { s with store := s.store.pruneDanglingLinks.2 }) ∧
      (s.store.DanglingApart →
        s.store.pruneDanglingLinks.2.rules = s.store.rules ∧
        ∀ text, ((s.next .save).2.next (.transform text)).1 = (s.next (.transform text)).1) := by
  have hpruned := s.store.pruned
  exact ⟨hpruned, hpruned.again, hpruned.links_eq_iff, hpruned.count_eq_iff, s.next_save_eq,
    fun hapart => ⟨hpruned.rules_eq hapart, h.transform_after_save hapart⟩⟩

def twinStrays : Json :=
  .obj [("patterns", .arr [.obj [("id", .str "p-1"), ("text", .str "a+")]]),
    ("replacers", .arr [.obj [("id", .str "r-1"), ("text", .str "<$&>")]]),
    ("links", .arr [
      .obj [("id", .str "l-1"), ("patternId", .str "p-2"), ("replacerId", .str "r-1")],
      .obj [("id", .str "l-2"), ("patternId", .str "p-1"), ("replacerId", .str "r-1")],
      .obj [("id", .str "l-1"), ("patternId", .str "p-1"), ("replacerId", .null)]])]

theorem twinStrays_prune_by_identifier :
    ∃ store : Store Counting, Store.ofJson twinStrays ⟨1⟩ = .ok store ∧
      (start store true false).Coherent ∧ store.DanglingApart ∧
      store.pruneDanglingLinks.1 = 1 ∧
      store.pruneDanglingLinks.2.links.map Link.id = ["l-2"] ∧
      store.pruneDanglingLinks.2.rules = store.rules := by
  refine ⟨_, rfl, .of_none rfl, by decide +kernel, by decide +kernel, by decide +kernel, ?_⟩
  obtain ⟨-, -, -, -, -, happly⟩ := prune_by_identifier (σ := Counting) (s := start _ true false)
    (.of_none rfl)
  exact (happly (by decide +kernel)).1

/-- Links that lack identifiers are all called alike. One of them dangles. -/
def namelessLinks : Json :=
  .obj [("patterns", .arr [.obj [("id", .str "p-1"), ("text", .str "a")]]),
    ("replacers", .arr [.obj [("id", .str "r-1"), ("text", .str "X")]]),
    ("links", .arr [.obj [("patternId", .str "p-1"), ("replacerId", .str "r-1")],
      .obj [("patternId", .str "p-9"), ("replacerId", .str "r-1")]])]

/-- The other link has both ends and a rule, and goes with it. -/
theorem namelessLinks_prune_too_much :
    ∃ store : Store Unit, Store.ofJson namelessLinks () = .ok store ∧
      (∃ l ∈ store.links, store.resolves l = true ∧ l ∉ store.pruneDanglingLinks.2.links) ∧
      store.pruneDanglingLinks.1 = 1 ∧
      store.links.length = store.pruneDanglingLinks.2.links.length + 2 ∧
      store.pruneDanglingLinks.2.rules ≠ store.rules := by
  refine ⟨_, rfl, ?_⟩
  decide +kernel

end Session
end PasteRules
