import PasteRules.Proofs.Regex.Row
import PasteRules.Proofs.Regex.Span

/-! Lines: patterns that are a row from the beginning of the text to its end. Such a pattern matches
at most once, and it does where the walk comes through. -/
namespace PasteRules.Regex

def lineNode (row : List Piece) : Node :=
  .ofList (.anchor .textStart :: (row.map Piece.node ++ [.anchor .finalLineEnd]))

def State.initial (groups : Nat) (text : List Char) : State := ⟨.ofText text, .replicate groups {}⟩

section

variable {r : Regex} {row : List Piece} {c : Cursor} {s : State} {text : List Char}

theorem Cursor.before_ne_nil_of_next? {d : Cursor} {x : Char} (h : c.next? = some (x, d)) :
    d.before ≠ [] := by
  obtain ⟨before, after, left, hleft⟩ := c
  cases after with
  | nil => cases h
  | cons y rest =>
    cases h
    exact List.cons_ne_nil _ _

theorem lineNode_run (row : List Piece) (s : State) (k : Continuation) :
    (lineNode row).run s k = if s.cursor.before.isEmpty then (rowNode row).run s k else none := by
  cases row <;> rfl

theorem matchAt?_eq_none_of_before (hr : r.root = lineNode row) (hc : c.before ≠ [])
    (mustMove : Bool) : r.matchAt? c mustMove = none := by
  have hempty : c.before.isEmpty = false := by simpa using hc
  simp [matchAt?, hr, lineNode_run, hempty]

/-- A line is not found but at the beginning. -/
theorem search?_eq_none_of_before (hr : r.root = lineNode row) (hc : c.before ≠ [])
    (mustMove : Bool) : r.search? c mustMove = none := by
  fun_induction search? r c mustMove with
  | case1 c mustMove m hm =>
    rw [matchAt?_eq_none_of_before hr hc] at hm
    cases hm
  | case2 c mustMove hm x d hnext ih => exact ih (Cursor.before_ne_nil_of_next? hnext)
  | case3 => rfl

theorem matchAt?_ofText (hr : r.root = lineNode row) (text : List Char) :
    r.matchAt? (.ofText text) false =
      ((rowNode row).run (.initial r.groups text) some).map fun s =>
        ⟨.ofText text, s.cursor, s.marks⟩ := by
  rw [matchAt?, hr, lineNode_run]
  rfl

/-- Where the walk comes through the line, the line is found there. -/
theorem find?_line_eq_some (hr : r.root = lineNode row)
    (hwalk : walk? row (.initial r.groups text) = some s) :
    r.find? text = some ⟨.ofText text, s.cursor, s.marks⟩ := by
  have hrun : (rowNode row).run (.initial r.groups text) some = some s :=
    rowNode_run_eq_some hwalk rfl
  rw [find?, search?, matchAt?_ofText hr, hrun]
  rfl

theorem find?_line_eq_none (hr : r.root = lineNode row) (hbounded : Bounded row)
    (hwalk : walk? row (.initial r.groups text) = none) : r.find? text = none := by
  rw [find?, search?, matchAt?_ofText hr, rowNode_run_eq_none hbounded hwalk, Option.map_none]
  dsimp only
  split
  · exact search?_eq_none_of_before hr (Cursor.before_ne_nil_of_next? ‹_›) _
  · rfl

theorem matchesFrom_line (hr : r.root = lineNode row)
    (hwalk : walk? row (.initial r.groups text) = some s) (hs : s.cursor.left < text.length) :
    r.matchesFrom (.ofText text) false = [⟨.ofText text, s.cursor, s.marks⟩] := by
  have hfind := find?_line_eq_some hr hwalk
  have hbefore : s.cursor.before ≠ [] := by
    intro hnil
    have htext : s.cursor.text = text := (within_of_find? hfind).finish
    rw [s.cursor.left_eq, ← htext, Cursor.text, hnil] at hs
    simp at hs
  have hrest := search?_eq_none_of_before hr hbefore
  rw [find?] at hfind
  rw [matchesFrom, hfind]
  dsimp only
  rw [if_pos (show s.cursor.left < (Cursor.ofText text).left from hs), matchesFrom, hrest]

theorem replace_line (hr : r.root = lineNode row)
    (hwalk : walk? row (.initial r.groups text) = some s) (hs : s.cursor.left < text.length)
    (replacement : Match → List Char) :
    r.replace replacement text =
      replacement ⟨.ofText text, s.cursor, s.marks⟩ ++ s.cursor.after := by
  rw [replace, matchesFrom_line hr hwalk hs]
  simp [splice, Cursor.slice]

end

end PasteRules.Regex
