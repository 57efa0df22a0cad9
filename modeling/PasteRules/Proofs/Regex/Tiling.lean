import PasteRules.Proofs.Regex.Span

/-! Replacing all matches of a pattern. The matches stand in the text one behind the other, so the
text is what they leave of it with the matches put back, and nothing but the matches is replaced. -/
namespace PasteRules.Regex

variable {r : Regex} {c : Cursor} {m : Match} {ms : List Match} {mustMove : Bool}
  {replacement : Match → List Char}

/-- The matches stand behind a place, each of them behind the one before. -/
inductive InTurn : Cursor → List Match → Prop
  | nil (c : Cursor) : InTurn c []
  | cons {c : Cursor} {m : Match} {ms : List Match} (hstart : c.Reaches m.start)
    (hfinish : m.start.Reaches m.finish) (hrest : InTurn m.finish ms) : InTurn c (m :: ms)

def leftBy (c : Cursor) : List Match → List (List Char)
  | [] => [c.after]
  | m :: ms => c.slice m.start :: leftBy m.finish ms

def outside (r : Regex) (text : List Char) : List (List Char) :=
  leftBy (.ofText text) (r.matchesFrom (.ofText text) false)

/-- Pieces with a text put in behind each of them, as far as there are texts. -/
def weave : List (List Char) → List (List Char) → List Char
  | piece :: pieces, text :: texts => piece ++ text ++ weave pieces texts
  | pieces, _ => pieces.flatten

theorem leftBy_length (c : Cursor) (ms : List Match) : (leftBy c ms).length = ms.length + 1 := by
  induction ms generalizing c with
  | nil => rfl
  | cons m ms ih => rw [leftBy, List.length_cons, ih, List.length_cons]

/-- What the matches leave is what stays, and their replacements go between. -/
theorem splice_eq_weave (replacement : Match → List Char) (c : Cursor) (ms : List Match) :
    splice replacement c ms = weave (leftBy c ms) (ms.map replacement) := by
  induction ms generalizing c with
  | nil => simp [splice, leftBy, weave]
  | cons m ms ih => rw [splice, leftBy, List.map_cons, weave, ih]

theorem replace_eq_weave (r : Regex) (replacement : Match → List Char) (text : List Char) :
    r.replace replacement text =
      weave (r.outside text) ((r.matchesFrom (.ofText text) false).map replacement) :=
  splice_eq_weave _ _ _

/-- Matches in turn, put back between what they leave, make up the text again. -/
theorem InTurn.splice_whole (h : InTurn c ms) : splice Match.whole c ms = c.after := by
  induction h with
  | nil => rfl
  | @cons c m ms hstart hfinish hrest ih =>
    calc splice Match.whole c (m :: ms)
        = c.slice m.start ++ (m.start.slice m.finish ++ splice Match.whole m.finish ms) := by
          rw [splice, Match.whole, List.append_assoc]
      _ = c.slice m.start ++ m.start.after := by rw [ih, hfinish.slice_append]
      _ = c.after := hstart.slice_append

theorem Cursor.Reaches.next? {d e : Cursor} {x : Char} (hnext : c.next? = some (x, d))
    (h : d.Reaches e) : c.Reaches e :=
  ⟨h.text.trans (text_of_next? hnext), Nat.le_trans h.left (Nat.le_of_lt (left_lt_of_next? hnext))⟩

theorem reaches_of_search? (h : r.search? c mustMove = some m) : c.Reaches m.start := by
  fun_induction search? r c mustMove with
  | case1 c mustMove m' hm' =>
    cases h
    obtain ⟨s, -, rfl⟩ := Option.map_eq_some_iff.mp hm'
    exact ⟨rfl, Nat.le_refl _⟩
  | case2 c mustMove hnone x d hnext ih => exact (ih h).next? hnext
  | case3 => cases h

theorem inTurn_matchesFrom (r : Regex) (c : Cursor) (mustMove : Bool) :
    InTurn c (r.matchesFrom c mustMove) := by
  fun_induction matchesFrom r c mustMove with
  | case1 => exact .nil _
  | case2 c mustMove m hsearch hleft ih =>
    exact .cons (reaches_of_search? hsearch) (within_of_search? hsearch).reaches ih
  | case3 c m hleft hsearch =>
    exact .cons (reaches_of_search? hsearch) (within_of_search? hsearch).reaches (.nil _)
  | case4 c mustMove m hsearch hleft hmust ih =>
    refine .cons (reaches_of_search? hsearch) (within_of_search? hsearch).reaches ?_
    split
    · exact ih ‹_›
    · exact .nil _

/-- Each match replaced by itself leaves the text as it is. -/
theorem replace_whole (r : Regex) (text : List Char) : r.replace Match.whole text = text :=
  (inTurn_matchesFrom r _ false).splice_whole

/-- A text is what the matches leave of it, with the matches put back. -/
theorem weave_outside (r : Regex) (text : List Char) :
    weave (r.outside text) ((r.matchesFrom (.ofText text) false).map Match.whole) = text := by
  rw [← replace_eq_weave, replace_whole]

/-! ### The matches one after the other -/

theorem matchesFrom_eq_nil (h : r.search? c mustMove = none) : r.matchesFrom c mustMove = [] := by
  rw [matchesFrom, h]

/-- Where no match begins, the matches are those from the next place on. -/
theorem matchesFrom_of_next? {d : Cursor} {x : Char} (hnone : r.matchAt? c mustMove = none)
    (hnext : c.next? = some (x, d)) : r.matchesFrom c mustMove = r.matchesFrom d false := by
  have hd := Cursor.left_lt_of_next? hnext
  have hsearch : r.search? c mustMove = r.search? d false := by
    rw [search?, hnone]
    dsimp only
    split
    · next hfound =>
      cases hfound.symm.trans hnext
      rfl
    · next hnowhere => cases hnowhere.symm.trans hnext
  rw [matchesFrom, matchesFrom, hsearch]
  cases hm : r.search? d false with
  | none => rfl
  | some m =>
    have hstart := (reaches_of_search? hm).left
    have hfinish := (within_of_search? hm).reaches.left
    have hc : m.finish.left < c.left := by omega
    rcases Nat.lt_or_eq_of_le (Nat.le_trans hfinish hstart) with hlt | heq
    · simp [hc, hlt]
    · have hempty : (m.finish.left == m.start.left) = true := by
        rw [beq_iff_eq]
        omega
      dsimp only
      rw [if_pos hc, if_neg (by omega), if_neg Bool.false_ne_true, if_pos heq, hempty]

/-- Where a match begins, it is the first one, and if it is not empty, the others follow it. -/
theorem matchesFrom_of_matchAt? (hm : r.matchAt? c mustMove = some m)
    (hleft : m.finish.left < c.left) :
    r.matchesFrom c mustMove = m :: r.matchesFrom m.finish false := by
  have hstart : m.start = c := by
    obtain ⟨s, -, rfl⟩ := Option.map_eq_some_iff.mp hm
    rfl
  have hempty : (m.finish.left == m.start.left) = false := by
    rw [hstart]
    exact beq_false_of_ne (Nat.ne_of_lt hleft)
  rw [matchesFrom, search?, hm]
  dsimp only
  rw [if_pos hleft, hempty]

/-! ### The first match -/

/-- The matches begin with the one that is found. -/
theorem matchesFrom_eq_cons (h : r.search? c false = some m) :
    ∃ ms, r.matchesFrom c false = m :: ms := by
  rw [matchesFrom, h]
  dsimp only
  split
  · exact ⟨_, rfl⟩
  · exact ⟨_, rfl⟩

theorem Match.Within.slice_start {text : List Char} (h : m.Within r text) :
    (Cursor.ofText text).slice m.start = m.before := by
  have htext : text = m.start.before.reverse ++ m.start.after := h.start.symm
  have hlength : text.length - m.start.left = m.start.before.reverse.length := by
    rw [htext, List.length_append, m.start.left_eq, Nat.add_sub_cancel]
  rw [Cursor.slice, Cursor.ofText, hlength, Match.before]
  exact htext ▸ List.take_left

/-- A replacement begins where the match that is found begins. If no other match is replaced, it
ends where this match ends. -/
theorem replace_eq_append {text : List Char} (h : r.find? text = some m) :
    ∃ ms remainder, r.matchesFrom (.ofText text) false = m :: ms ∧
      r.replace replacement text = m.before ++ replacement m ++ remainder ∧
      (ms = [] → remainder = m.after) := by
  obtain ⟨ms, hms⟩ := matchesFrom_eq_cons h
  refine ⟨ms, splice replacement m.finish ms, hms, ?_, ?_⟩
  · rw [replace, hms, splice, (within_of_find? h).slice_start]
  · rintro rfl
    rfl

end PasteRules.Regex
