import PasteRules.Proofs.Session.Paste
import PasteRules.Proofs.Session.Refusal
import PasteRules.Proofs.Store.Outcome
import PasteRules.Proofs.Store.Runs

/-! Moves to an index of any kind. A move takes its link out before it looks at the index, so an
index that means no place costs the link. No revision is counted then: a session goes on with the
rules that it has compiled before, that of the lost link among them. -/
namespace PasteRules

/-- The index means no place beside `n` others: it is neither a number nor a flag, or it is a
fractional number above zero and not above `n`. -/
def Json.MeansNoPlace (index : Json) (n : Nat) : Prop :=
  match index with
  | .int _ | .bool _ => False
  | .real x => x.compareInt? 0 = some .gt ∧ x.compareInt? n ≠ some .gt
  | .null | .str _ | .arr _ | .obj _ => True

namespace Store

variable {σ : Type} {s : Store σ} {id : String} {index : Json}

theorem placeFor?_eq_none_iff {n : Nat} : placeFor? index n = none ↔ index.MeansNoPlace n := by
  unfold placeFor? Json.MeansNoPlace
  cases index with
  | null | str | arr | obj => simp
  | int | bool => simp
  | real x =>
    by_cases hlast : x.compareInt? n = some .gt
    · simp [hlast]
    · simp [hlast]

/-- A move that loses nothing: it succeeds, with the links reordered and a revision counted, or it
fails and leaves the store as it was. -/
inductive LosesNothing (s : Store σ) : Except Fault Link × Store σ → Prop
  | moved {l : Link} {links : List Link} (perm : links.Perm s.links) :
    LosesNothing s (.ok l, bump { s with links })
  | refused (fault : Fault) : LosesNothing s (.error fault, s)

theorem not_losesNothing {fault : Fault} {s' : Store σ} (h : s'.links ≠ s.links) :
    ¬s.LosesNothing (.error fault, s') := by
  intro hnothing
  cases hnothing
  exact h rfl

def Misplaces (s : Store σ) (id : String) (index : Json) : Prop :=
  id ∈ s.links.map Link.id ∧ index.MeansNoPlace (s.links.length - 1)

theorem length_others {l : Link} (h : s.links.find? (·.id == id) = some l) :
    (s.links.eraseP (·.id == id)).length = s.links.length - 1 := by
  have hlength := (perm_cons_eraseP h).length_eq
  rw [List.length_cons] at hlength
  omega

theorem placeFor?_others {l : Link} (h : s.links.find? (·.id == id) = some l) :
    placeFor? index (s.links.eraseP (·.id == id)).length = none ↔
      index.MeansNoPlace (s.links.length - 1) := by
  rw [length_others h]
  exact placeFor?_eq_none_iff

/-- A link that is there is taken out, and comes back in where the index means a place. -/
theorem moveLink_of_mem (h : id ∈ s.links.map Link.id) (index : Json) :
    ∃ l, s.links.find? (·.id == id) = some l ∧
      (placeFor? index (s.links.eraseP (·.id == id)).length = none → s.moveLink id index =
        (.error .notAPosition, { s with links := s.links.eraseP (·.id == id) })) ∧
      ∀ i, placeFor? index (s.links.eraseP (·.id == id)).length = some i → s.moveLink id index =
        (.ok l, bump { s with links := (s.links.eraseP (·.id == id)).insertIdx i l }) := by
  obtain ⟨l, hl⟩ := (s.lookup_link id).exists_ok h
  refine ⟨l, getLink_ok hl, fun hnone => ?_, fun i hi => ?_⟩
  · rw [moveLink_eq, hl]
    simp only [hnone]
  · rw [moveLink_eq, hl]
    simp only [hi]

/-- Moved to no place, the link is gone, and nothing else has changed. -/
theorem moveLink_misplaced (h : s.Misplaces id index) :
    s.moveLink id index =
      (.error .notAPosition, { s with links := s.links.eraseP (·.id == id) }) := by
  obtain ⟨hid, hindex⟩ := h
  obtain ⟨l, hfound, hlost, -⟩ := moveLink_of_mem hid index
  exact hlost ((placeFor?_others hfound).mpr hindex)

theorem losesNothing_of_unknown (h : id ∉ s.links.map Link.id) :
    s.LosesNothing (s.moveLink id index) := by
  have hl := s.lookup_link id
  rw [moveLink_eq]
  generalize s.getLink id = result at hl
  cases hl with
  | found l hid => exact absurd hid h
  | missing => exact .refused _

theorem losesNothing_of_place (hid : id ∈ s.links.map Link.id)
    (hindex : ¬index.MeansNoPlace (s.links.length - 1)) :
    s.LosesNothing (s.moveLink id index) := by
  obtain ⟨l, hfound, -, hmoved⟩ := moveLink_of_mem hid index
  have hplace : placeFor? index (s.links.eraseP (·.id == id)).length ≠ none :=
    fun hnone => hindex ((placeFor?_others hfound).mp hnone)
  obtain ⟨i, hi⟩ := Option.ne_none_iff_exists'.mp hplace
  rw [hmoved i hi]
  exact .moved (perm_moved hfound hi)

/-- A move loses nothing unless it finds its link and the index means no place. Then it fails, the
link is gone, and no revision is counted. -/
theorem moveLink_losesNothing_iff (s : Store σ) (id : String) (index : Json) :
    (s.LosesNothing (s.moveLink id index) ↔ ¬s.Misplaces id index) ∧
      (s.Misplaces id index → ∃ l links, l.id = id ∧ s.links.Perm (l :: links) ∧
        s.moveLink id index = (.error .notAPosition, { s with links })) := by
  have hlost (h : s.Misplaces id index) : ∃ l links, l.id = id ∧ s.links.Perm (l :: links) ∧
      s.moveLink id index = (.error .notAPosition, { s with links }) := by
    obtain ⟨l, hfound, -⟩ := moveLink_of_mem h.1 index
    have hid : l.id = id := by simpa using List.find?_some hfound
    exact ⟨l, _, hid, perm_cons_eraseP hfound, moveLink_misplaced h⟩
  refine ⟨⟨fun hnothing h => ?_, fun h => ?_⟩, hlost⟩
  · obtain ⟨l, links, -, hperm, hmove⟩ := hlost h
    rw [hmove] at hnothing
    refine not_losesNothing (fun hlinks => ?_) hnothing
    have hlength := hperm.length_eq
    have hsame := congrArg List.length hlinks
    rw [List.length_cons] at hlength
    dsimp only at hsame
    omega
  · by_cases hid : id ∈ s.links.map Link.id
    · exact losesNothing_of_place hid fun hindex => h ⟨hid, hindex⟩
    · exact losesNothing_of_unknown hid

def twoReplacers : Store Unit :=
  ⟨[⟨"p-1", "a"⟩], [⟨"r-1", "X"⟩, ⟨"r-2", "Y"⟩],
    [⟨"l-1", "p-1", "r-1", true, ""⟩, ⟨"l-2", "p-1", "r-2", true, ""⟩], 4, ()⟩

/-- Null means no place, and neither does the fractional number 1.0, which is no more than the last
place. -/
theorem twoReplacers_lose_link :
    twoReplacers.moveLink "l-1" .null =
        (.error .notAPosition,
          { twoReplacers with links := [⟨"l-2", "p-1", "r-2", true, ""⟩] }) ∧
      twoReplacers.moveLink "l-1" (.real (.ofDecimal false 10 (-1))) =
        (.error .notAPosition,
          { twoReplacers with links := [⟨"l-2", "p-1", "r-2", true, ""⟩] }) ∧
      ¬twoReplacers.LosesNothing (twoReplacers.moveLink "l-1" .null) ∧
      ¬twoReplacers.LosesNothing
        (twoReplacers.moveLink "l-1" (.real (.ofDecimal false 10 (-1)))) := by
  have hnull : twoReplacers.moveLink "l-1" .null = (.error .notAPosition,
      { twoReplacers with links := [⟨"l-2", "p-1", "r-2", true, ""⟩] }) := by decide +kernel
  have hreal : twoReplacers.moveLink "l-1" (.real (.ofDecimal false 10 (-1))) =
      (.error .notAPosition,
        { twoReplacers with links := [⟨"l-2", "p-1", "r-2", true, ""⟩] }) := by decide +kernel
  have hlost : [⟨"l-2", "p-1", "r-2", true, ""⟩] ≠ twoReplacers.links := by decide
  rw [hnull, hreal]
  exact ⟨rfl, rfl, not_losesNothing hlost, not_losesNothing hlost⟩

end Store

namespace Session

variable {σ : Type} [IdSupply σ]

/-- A session that has compiled its rules goes on with all of them when a link is lost, though its
store has only those of the other links. -/
theorem next_rules_misplaced {s : Session σ} {rules : List Rule} {id : String} {index : Json}
    (hcompiled : s.compiled = some (s.store.revision, rules)) (h : s.store.Misplaces id index) :
    ((s.next (.edit (.moveLink id index))).2.next .rules).1 = .ok (.answer (.rules rules)) ∧
      (s.next (.edit (.moveLink id index))).2.store.rules =
        gather s.store.ruleOf (s.store.links.eraseP (·.id == id)) := by
  have hyields (t : Session σ) : (t.next .rules).1 =
      t.currentRules.map fun rules => .answer (.rules rules) :=
    (Action.rules_yields t).bind_answers (fun _ => .pure _) ""
  rw [hyields, next_edit, Store.edit_moveLink, Store.moveLink_misplaced h]
  constructor
  · simp [currentRules, hcompiled, Except.map]
  · rw [Store.rules_eq_gather]
    rfl

end Session
end PasteRules
