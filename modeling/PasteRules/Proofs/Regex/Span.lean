import PasteRules.Regex.Match

/-! What a match spans. Matching goes forward in its text and gives up no group's mark, so a match
is a piece of the text that it was looked for in. -/
namespace PasteRules.Regex

variable {c d : Cursor} {s s' s'' : State} {body : Matcher} {k : Continuation}

namespace Cursor

theorem text_of_next? {x : Char} (h : c.next? = some (x, d)) : d.text = c.text := by
  obtain ⟨before, after, left, hleft⟩ := c
  cases after with
  | nil => cases h
  | cons y rest =>
    cases h
    simp [text]

theorem text_of_behindText? {folding : Folding} {text : List Char}
    (h : c.behindText? folding text = some d) : d.text = c.text ∧ d.left ≤ c.left := by
  fun_induction Cursor.behindText? folding c text with
  | case1 c =>
    cases h
    exact ⟨rfl, Nat.le_refl _⟩
  | case2 c x rest y e hnext hsame ih =>
    have hbehind := ih h
    exact ⟨hbehind.1.trans (text_of_next? hnext),
      Nat.le_trans hbehind.2 (Nat.le_of_lt (left_lt_of_next? hnext))⟩
  | case3 => cases h
  | case4 => cases h

end Cursor

/-- The state stands in the same text, as far or farther on, and has a mark for each group too. -/
structure State.Onward (s s' : State) : Prop where
  text : s'.cursor.text = s.cursor.text
  left : s'.cursor.left ≤ s.cursor.left
  marks : s'.marks.length = s.marks.length

namespace State.Onward

theorem refl (s : State) : s.Onward s := ⟨rfl, Nat.le_refl _, rfl⟩

theorem trans (h : s.Onward s') (h' : s'.Onward s'') : s.Onward s'' :=
  ⟨h'.text.trans h.text, Nat.le_trans h'.left h.left, h'.marks.trans h.marks⟩

theorem setMark (s : State) (number : Nat) (m : Mark) : s.Onward (s.setMark number m) :=
  ⟨rfl, Nat.le_refl _, by simp [State.setMark]⟩

end State.Onward

namespace Matcher

/-- Whatever the matcher leads to, it hands its continuation a state farther on. -/
def Advances (body : Matcher) : Prop :=
  ∀ s k r, body s k = some r → ∃ s', s.Onward s' ∧ k s' = some r

theorem orElse_eq_some {first : Option State} {second : Unit → Option State} {r : State} :
    orElse first second = some r ↔ first = some r ∨ first = none ∧ second () = some r := by
  cases first <;> simp [orElse]

/-- The first way through a matcher ends farther on. -/
theorem Advances.onward (h : body.Advances) (hbody : body s some = some s') : s.Onward s' := by
  obtain ⟨t, ht, hsome⟩ := h s some s' hbody
  exact Option.some.inj hsome ▸ ht

theorem Advances.times (h : body.Advances) (n : Nat) : Advances (times body n) := by
  induction n with
  | zero => exact fun s k r hrun => ⟨s, .refl s, hrun⟩
  | succ n ih =>
    intro s k r hrun
    obtain ⟨s', hs', hrest⟩ := h _ _ _ hrun
    obtain ⟨s'', hs'', hk⟩ := ih _ _ _ hrest
    exact ⟨s'', hs'.trans hs'', hk⟩

theorem Advances.greedy (h : body.Advances) (most : Option Nat) : Advances (greedy body most) := by
  intro s k r hrun
  fun_induction Matcher.greedy body most s k with
  | case1 => exact ⟨_, .refl _, hrun⟩
  | case2 most s hmost ih =>
    rcases orElse_eq_some.mp hrun with hround | ⟨-, hstop⟩
    · obtain ⟨s', hs', hrest⟩ := h _ _ _ hround
      split at hrest
      · obtain ⟨s'', hs'', hk⟩ := ih s' ‹_› hrest
        exact ⟨s'', hs'.trans hs'', hk⟩
      · exact ⟨s', hs', hrest⟩
    · exact ⟨s, .refl s, hstop⟩

theorem Advances.lazy (h : body.Advances) (most : Option Nat) : Advances (lazy body most) := by
  intro s k r hrun
  fun_induction Matcher.lazy body most s k with
  | case1 most s ih =>
    rcases orElse_eq_some.mp hrun with hstop | ⟨-, hround⟩
    · exact ⟨s, .refl s, hstop⟩
    · split at hround
      · cases hround
      obtain ⟨s', hs', hrest⟩ := h _ _ _ hround
      split at hrest
      · obtain ⟨s'', hs'', hk⟩ := ih s' ‹_› hrest
        exact ⟨s'', hs'.trans hs'', hk⟩
      · exact ⟨s', hs', hrest⟩

theorem Advances.possessive (h : body.Advances) (most : Option Nat) (s : State) :
    s.Onward (possessive body most s) := by
  fun_induction Matcher.possessive body most s with
  | case1 => exact .refl _
  | case2 => exact .refl _
  | case3 most s hmost s' hbody hleft ih => exact (h.onward hbody).trans ih
  | case4 most s hmost s' hbody hleft => exact h.onward hbody

theorem Advances.timesFirst (h : body.Advances) {n : Nat} (hrun : timesFirst body n s = some s') :
    s.Onward s' := by
  induction n generalizing s with
  | zero =>
    cases hrun
    exact .refl _
  | succ n ih =>
    obtain ⟨t, hbody, hrest⟩ := Option.bind_eq_some_iff.mp hrun
    exact (h.onward hbody).trans (ih hrest)

theorem Advances.loop (h : body.Advances) (greed : Greed) (least : Nat) (most : Option Nat) :
    Advances (loop body greed least most) := by
  intro s k r hrun
  cases greed with
  | greedy =>
    obtain ⟨s', hs', hrest⟩ := h.times least _ _ _ hrun
    obtain ⟨s'', hs'', hk⟩ := h.greedy _ _ _ _ hrest
    exact ⟨s'', hs'.trans hs'', hk⟩
  | lazy =>
    obtain ⟨s', hs', hrest⟩ := h.times least _ _ _ hrun
    obtain ⟨s'', hs'', hk⟩ := h.lazy _ _ _ _ hrest
    exact ⟨s'', hs'.trans hs'', hk⟩
  | possessive =>
    obtain ⟨s', hfirst, hk⟩ := Option.bind_eq_some_iff.mp hrun
    exact ⟨_, (h.timesFirst hfirst).trans (h.possessive _ _), hk⟩

/-- A look-around goes on from where it stands, however far its part went. -/
theorem Advances.look (h : body.Advances) (side : Side) (negated : Bool) :
    Advances (look body side negated) := by
  intro s k r hrun
  unfold Matcher.look at hrun
  dsimp only at hrun
  split at hrun
  · rename_i s' hfound
    obtain ⟨c, -, hbody⟩ := Option.bind_eq_some_iff.mp hfound
    exact ⟨{ s' with cursor := s.cursor }, ⟨rfl, Nat.le_refl _, (h.onward hbody).marks⟩, hrun⟩
  · exact ⟨s, .refl s, hrun⟩
  · cases hrun

end Matcher

open Matcher (Advances)

/-- Every part of a pattern goes forward. -/
theorem Node.run_advances (node : Node) : Advances node.run := by
  induction node with
  | empty => exact fun s k r hrun => ⟨s, .refl s, hrun⟩
  | char test =>
    intro s k r hrun
    simp only [Node.run] at hrun
    split at hrun
    · rename_i x d hnext
      split at hrun
      · have hleft := Nat.le_of_lt (Cursor.left_lt_of_next? hnext)
        exact ⟨{ s with cursor := d }, ⟨Cursor.text_of_next? hnext, hleft, rfl⟩, hrun⟩
      · cases hrun
    · cases hrun
  | anchor place =>
    intro s k r hrun
    simp only [Node.run] at hrun
    split at hrun
    · exact ⟨s, .refl s, hrun⟩
    · cases hrun
  | seq a b iha ihb =>
    intro s k r hrun
    obtain ⟨s', hs', hrest⟩ := iha _ _ _ hrun
    obtain ⟨s'', hs'', hk⟩ := ihb _ _ _ hrest
    exact ⟨s'', hs'.trans hs'', hk⟩
  | alt a b iha ihb =>
    intro s k r hrun
    rw [Node.run] at hrun
    rcases Matcher.orElse_eq_some.mp hrun with hfirst | ⟨-, hsecond⟩
    · exact iha _ _ _ hfirst
    · exact ihb _ _ _ hsecond
  | group number body ih =>
    intro s k r hrun
    obtain ⟨s', hs', hk⟩ := ih _ _ _ hrun
    exact ⟨_, ((State.Onward.setMark _ _ _).trans hs').trans (.setMark _ _ _), hk⟩
  | loop greed least most body ih => exact ih.loop greed least most
  | look side negated body ih => exact ih.look side negated
  | atomic body ih =>
    intro s k r hrun
    obtain ⟨s', hbody, hk⟩ := Option.bind_eq_some_iff.mp hrun
    exact ⟨s', ih.onward hbody, hk⟩
  | backref number folding =>
    intro s k r hrun
    simp only [Node.run] at hrun
    split at hrun
    · obtain ⟨d, hd, hk⟩ := Option.bind_eq_some_iff.mp hrun
      obtain ⟨htext, hleft⟩ := Cursor.text_of_behindText? hd
      exact ⟨{ s with cursor := d }, ⟨htext, hleft, rfl⟩, hk⟩
    · cases hrun
  | cond number yes no ihyes ihno =>
    intro s k r hrun
    simp only [Node.run] at hrun
    split at hrun
    · exact ihyes _ _ _ hrun
    · exact ihno _ _ _ hrun

namespace Cursor

structure Reaches (c d : Cursor) : Prop where
  text : d.text = c.text
  left : d.left ≤ c.left

/-- What comes before a place farther on, and what comes behind it. -/
theorem Reaches.slice_append (h : c.Reaches d) : c.slice d ++ d.after = c.after := by
  have hc : c.after <:+ c.text := List.suffix_append _ _
  have hd : d.after <:+ c.text := h.text ▸ List.suffix_append _ _
  have hlength : d.after.length ≤ c.after.length := by
    rw [← d.left_eq, ← c.left_eq]
    exact h.left
  have hbehind : d.after = c.after.drop (c.left - d.left) := by
    rw [c.left_eq, d.left_eq]
    exact List.suffix_iff_eq_drop.mp (List.suffix_of_suffix_length_le hd hc hlength)
  rw [slice, hbehind, List.take_append_drop]

end Cursor

structure Match.Within (r : Regex) (text : List Char) (m : Match) : Prop where
  start : m.start.text = text
  finish : m.finish.text = text
  left : m.finish.left ≤ m.start.left
  marks : m.marks.length = r.groups

variable {r : Regex} {m : Match} {text : List Char}

theorem within_of_matchAt? {mustMove : Bool} (h : r.matchAt? c mustMove = some m) :
    m.Within r c.text := by
  obtain ⟨s, hrun, rfl⟩ := Option.map_eq_some_iff.mp h
  obtain ⟨s', honward, hfinal⟩ := r.root.run_advances _ _ _ hrun
  split at hfinal
  · cases hfinal
  · cases hfinal
    exact ⟨rfl, honward.text, honward.left, by simpa using honward.marks⟩

theorem within_of_search? {mustMove : Bool} (h : r.search? c mustMove = some m) :
    m.Within r c.text := by
  fun_induction search? r c mustMove with
  | case1 c mustMove m' hm' =>
    cases h
    exact within_of_matchAt? hm'
  | case2 c mustMove hnone x d hnext ih => exact Cursor.text_of_next? hnext ▸ ih h
  | case3 => cases h

theorem within_of_find? (h : r.find? text = some m) : m.Within r text := within_of_search? h

/-- All matches lie in the text that they were looked for in. -/
theorem within_of_mem_matchesFrom {mustMove : Bool} (h : m ∈ r.matchesFrom c mustMove) :
    m.Within r c.text := by
  fun_induction matchesFrom r c mustMove with
  | case1 => cases h
  | case2 c mustMove m' hsearch hleft ih =>
    have hwithin := within_of_search? hsearch
    rcases List.mem_cons.mp h with rfl | hrest
    · exact hwithin
    · exact hwithin.finish ▸ ih hrest
  | case3 c m' hleft hsearch =>
    obtain rfl := List.mem_singleton.mp h
    exact within_of_search? hsearch
  | case4 c mustMove m' hsearch hleft hmust ih =>
    have hwithin := within_of_search? hsearch
    rcases List.mem_cons.mp h with rfl | hrest
    · exact hwithin
    · split at hrest
      · exact hwithin.finish ▸ ih ‹_› hrest
      · cases hrest

namespace Match.Within

theorem reaches (h : m.Within r text) : m.start.Reaches m.finish :=
  ⟨h.finish.trans h.start.symm, h.left⟩

/-- A match cuts its text in three. -/
theorem cuts (h : m.Within r text) : m.before ++ m.whole ++ m.after = text := by
  rw [Match.before, Match.whole, Match.after, List.append_assoc, h.reaches.slice_append, ← h.start]
  rfl

/-- A match has an answer, though perhaps no text, for each group of the pattern. -/
theorem exists_group? (h : m.Within r text) {number : Nat} (hnumber : number ≤ r.groups) :
    ∃ found, m.group? number = some found := by
  unfold Match.group?
  split
  · exact ⟨_, rfl⟩
  · have hlt : number - 1 < m.marks.length := by
      rw [h.marks]
      omega
    exact ⟨_, by rw [List.getElem?_eq_getElem hlt]; rfl⟩

end Match.Within

end PasteRules.Regex
