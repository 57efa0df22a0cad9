import PasteRules.Proofs.Store.Move
import PasteRules.Proofs.Store.Outcome

/-! Moving a link to an integer place. It reorders the links and changes nothing else, and moving
the link back to where it stood undoes it. -/
namespace PasteRules

/-- The second list is a reordering of the first: the link `l` stands at the place, and the others
follow each other as they did. -/
structure Reordered (links links' : List Link) (l : Link) (place : Nat) : Prop where
  perm : links'.Perm links
  moved : links'[place]? = some l
  others : links'.filter (·.id != l.id) = links.filter (·.id != l.id)

namespace Store

variable {σ : Type} {s : Store σ} {before behind : List Link} {l : Link}

theorem clampIndex_eq (index : Int) (n : Nat) :
    clampIndex index n = (max 0 (min index n)).toNat := by
  unfold clampIndex
  omega

theorem clampIndex_natCast {i n : Nat} (h : i ≤ n) : clampIndex i n = i := by
  unfold clampIndex
  omega

theorem exists_split {links : List Link} {i : Nat} (h : links[i]? = some l) :
    ∃ before behind, links = before ++ l :: behind ∧ before.length = i := by
  obtain ⟨hi, rfl⟩ := List.getElem?_eq_some_iff.mp h
  refine ⟨links.take i, links.drop (i + 1), ?_, ?_⟩
  · rw [List.getElem_cons_drop, List.take_append_drop]
  · rw [List.length_take]
    omega

section

variable (hn : ((before ++ l :: behind).map Link.id).Nodup)

include hn

theorem filter_split : (before ++ l :: behind).filter (·.id != l.id) = before ++ behind := by
  have hne := id_ne_of_nodup hn
  have hothers : (before ++ behind).filter (·.id != l.id) = before ++ behind := by
    apply List.filter_eq_self.mpr
    intro x hx
    simpa using hne x hx
  simpa using hothers

theorem eraseP_split : (before ++ l :: behind).eraseP (·.id == l.id) = before ++ behind := by
  have hne := id_ne_of_nodup hn
  have hbefore : ∀ x ∈ before, ¬(x.id == l.id) = true := by
    intro x hx
    simpa using hne x (List.mem_append_left _ hx)
  rw [List.eraseP_append_right _ hbefore, List.eraseP_cons_of_pos (by simp)]

/-- A link is moved among the others. -/
theorem moveLink_split (hlinks : s.links = before ++ l :: behind) (index : Int) :
    s.moveLink l.id (.int index) = (.ok l, bump { s with
      links := (before ++ behind).insertIdx (clampIndex index (before ++ behind).length) l }) := by
  have hfound : s.getLink l.id = .ok l := by
    apply getLink_eq (hlinks ▸ hn)
    exact hlinks ▸ List.mem_append_right _ List.mem_cons_self
  have hothers : s.links.eraseP (·.id == l.id) = before ++ behind := by
    rw [hlinks, eraseP_split hn]
  rw [moveLink_eq, hfound]
  simp only [hothers, placeFor?]

theorem reordered_insertIdx {i : Nat} (hi : i ≤ (before ++ behind).length) :
    Reordered (before ++ l :: behind) ((before ++ behind).insertIdx i l) l i := by
  have hperm : ((before ++ behind).insertIdx i l).Perm (before ++ l :: behind) :=
    (List.perm_insertIdx l _ hi).trans List.perm_middle.symm
  constructor
  · exact hperm
  · rw [List.getElem?_insertIdx_self, if_pos hi]
  · have hn' := (hperm.map Link.id).nodup_iff.mpr hn
    rw [insertIdx_eq_take_append hi] at hn' ⊢
    rw [filter_split hn', filter_split hn, List.take_append_drop]

end

/-- Moving a link returns it and brings it to the place that the index means, clamped to the first
and the last one. The others keep their order, nothing else changes but the revision, and moving the
link back to its former place restores the list. -/
theorem moveLink_reorders (hn : (s.links.map Link.id).Nodup) {former : Nat}
    (hl : s.links[former]? = some l) (index : Int) :
    ∃ s', s.moveLink l.id (.int index) = (.ok l, s') ∧
      Reordered s.links s'.links l (max 0 (min index (s.links.length - 1))).toNat ∧
      s'.patterns = s.patterns ∧ s'.replacers = s.replacers ∧ s'.ids = s.ids ∧
      s'.revision = s.revision + 1 ∧
      ∃ s'', s'.moveLink l.id (.int former) = (.ok l, s'') ∧ s''.links = s.links := by
  obtain ⟨before, behind, hlinks, hformer⟩ := exists_split hl
  rw [hlinks] at hn
  have hlength : (before ++ behind).length = s.links.length - 1 := by simp [hlinks]
  have hi : clampIndex index (before ++ behind).length ≤ (before ++ behind).length :=
    Nat.min_le_right _ _
  have hmove := moveLink_split hn hlinks index
  have hreordered := reordered_insertIdx hn hi
  generalize hplace : clampIndex index (before ++ behind).length = i at hi hmove hreordered
  have hi' : i = (max 0 (min index (s.links.length - 1))).toNat := by
    have hpos := List.length_pos_of_mem (List.mem_of_getElem? hl)
    rw [← hplace, clampIndex_eq, hlength]
    omega
  refine ⟨_, hmove, ?_, rfl, rfl, rfl, rfl, ?_⟩
  · rw [← hi', hlinks]
    exact hreordered
  -- Taken out again, the link leaves the others as they were before it was moved.
  · have hsplit := insertIdx_eq_take_append hi l
    have hn' := (hreordered.perm.map Link.id).nodup_iff.mpr hn
    rw [hsplit] at hn'
    have hback := moveLink_split (s := bump { s with links := (before ++ behind).insertIdx i l })
      hn' hsplit former
    refine ⟨_, hback, ?_⟩
    have hle : former ≤ (before ++ behind).length := by
      rw [List.length_append]
      omega
    change ((before ++ behind).take i ++ (before ++ behind).drop i).insertIdx _ l = s.links
    rw [List.take_append_drop, clampIndex_natCast hle, insertIdx_eq_take_append hle, hlinks,
      ← hformer, List.take_left, List.drop_left]

def threeLinks : Store Unit :=
  ⟨[⟨"p-1", "a"⟩], [⟨"r-1", "X"⟩, ⟨"r-2", "Y"⟩, ⟨"r-3", "Z"⟩],
    [⟨"l-1", "p-1", "r-1", true, ""⟩, ⟨"l-2", "p-1", "r-2", false, ""⟩,
      ⟨"l-3", "p-1", "r-3", true, "last"⟩], 7, ()⟩

/-- An index far below zero means the first place. -/
theorem threeLinks_reordered :
    ∃ s', threeLinks.moveLink "l-2" (.int (-36893488147419103232)) =
        (.ok ⟨"l-2", "p-1", "r-2", false, ""⟩, s') ∧
      Reordered threeLinks.links s'.links ⟨"l-2", "p-1", "r-2", false, ""⟩ 0 ∧
      s'.links.map Link.id = ["l-2", "l-1", "l-3"] ∧
      ∃ s'', s'.moveLink "l-2" (.int 1) = (.ok ⟨"l-2", "p-1", "r-2", false, ""⟩, s'') ∧
        s''.links = threeLinks.links := by
  have hn : (threeLinks.links.map Link.id).Nodup := by decide
  have hl : threeLinks.links[1]? = some ⟨"l-2", "p-1", "r-2", false, ""⟩ := rfl
  obtain ⟨s', hmove, hreordered, -, -, -, -, hback⟩ :=
    moveLink_reorders hn hl (-36893488147419103232)
  refine ⟨s', hmove, hreordered, ?_, hback⟩
  obtain rfl : (threeLinks.moveLink "l-2" (.int (-36893488147419103232))).2 = s' :=
    congrArg Prod.snd hmove
  decide +kernel

end Store
end PasteRules
