import PasteRules.Regex.Match

/-! Rows. A row is a pattern of single characters and runs of characters, one after the other up to
the end of the text. Walking through a text by a row takes each run as long as it goes. Where the
walk comes through, so does the search, in the same way. Where it does not, going back helps only if
what follows some run may begin like the rest of the run. -/
namespace PasteRules.Regex

open Matcher (orElse greedy)

/-- A part of a row: one character, or a run of one or more, which may be a group. -/
inductive Piece where
  | char (test : CharTest)
  | run (number : Option Nat) (test : CharTest)
  deriving DecidableEq, Repr

namespace State

def opened (s : State) (number : Option Nat) : State := number.elim s s.openGroup

def closed (s : State) (number : Option Nat) : State := number.elim s s.closeGroup

def step? (test : CharTest) (s : State) : Option State := (Node.char test).run s some

/-- The state behind all characters that pass a test from here on. -/
def skip (test : CharTest) (s : State) : State := Matcher.possessive (Node.char test).run none s

/-- The state behind a run, which is at least one character long. -/
def run? (test : CharTest) (s : State) : Option State := (s.step? test).map (skip test)

end State

namespace Piece

def node : Piece → Node
  | .char test => .char test
  | .run none test => .loop .greedy 1 none (.char test)
  | .run (some number) test => .group number (.loop .greedy 1 none (.char test))

def walk? : Piece → State → Option State
  | .char test, s => s.step? test
  | .run number test, s => ((s.opened number).run? test).map (·.closed number)

end Piece

def rowNode (row : List Piece) : Node := .ofList (row.map Piece.node ++ [.anchor .finalLineEnd])

def walk? : List Piece → State → Option State
  | [], s => if Anchor.finalLineEnd.holds s.cursor then some s else none
  | piece :: row, s => (piece.walk? s).bind (walk? row)

/-- What follows a run cannot begin with a character of the run. -/
def Bounds (test : CharTest) : List Piece → Prop
  | [] => True
  | .char next :: _ => ∀ c, test.accepts c = true → next.accepts c = false
  | .run _ _ :: _ => False

def Bounded : List Piece → Prop
  | [] => True
  | .char _ :: row => Bounded row
  | .run _ test :: row => Bounds test row ∧ Bounded row

section

variable {s s' r : State} {k : Continuation} {test : CharTest} {row : List Piece}

theorem Cursor.after_of_next? {c d : Cursor} {x : Char} (h : c.next? = some (x, d)) :
    c.after = x :: d.after := by
  obtain ⟨before, after, left, hleft⟩ := c
  cases after with
  | nil => cases h
  | cons y rest =>
    cases h
    rfl

theorem Cursor.next?_eq_none {c : Cursor} (h : c.after = []) : c.next? = none := by
  obtain ⟨before, after, left, hleft⟩ := c
  cases h
  rfl

namespace State

@[simp]
theorem closed_cursor (s : State) (number : Option Nat) : (s.closed number).cursor = s.cursor := by
  cases number <;> rfl

theorem step?_eq (test : CharTest) (s : State) :
    s.step? test =
      s.cursor.next?.bind fun p =>
        if test.accepts p.1 then some { s with cursor := p.2 } else none := by
  simp only [step?, Node.run]
  cases s.cursor.next? <;> rfl

theorem run_char (test : CharTest) (s : State) (k : Continuation) :
    (Node.char test).run s k = (s.step? test).bind k := by
  rw [step?_eq]
  simp only [Node.run]
  cases s.cursor.next? with
  | none => rfl
  | some p =>
    simp only [Option.bind_some]
    split <;> rfl

theorem exists_accepted_of_step? (h : s.step? test = some s') :
    ∃ c d, s.cursor.next? = some (c, d) ∧ test.accepts c = true ∧ s' = { s with cursor := d } := by
  rw [step?_eq] at h
  obtain ⟨⟨c, d⟩, hnext, hp⟩ := Option.bind_eq_some_iff.mp h
  split at hp
  · cases hp
    exact ⟨c, d, hnext, ‹_›, rfl⟩
  · cases hp

theorem left_lt_of_step? (h : s.step? test = some s') : s'.cursor.left < s.cursor.left := by
  obtain ⟨c, d, hnext, -, rfl⟩ := exists_accepted_of_step? h
  exact Cursor.left_lt_of_next? hnext

theorem skip_of_step?_eq_none (h : s.step? test = none) : s.skip test = s := by
  rw [skip, Matcher.possessive]
  simp [run_char, h]

theorem skip_of_step? (h : s.step? test = some s') : s.skip test = s'.skip test := by
  rw [skip, Matcher.possessive]
  simp [run_char, h, left_lt_of_step? h, skip]

end State

/-- A run goes on by one character if it can, and stops here if that comes to nothing. -/
theorem greedy_char (test : CharTest) (s : State) (k : Continuation) :
    greedy (Node.char test).run none s k =
      orElse ((s.step? test).bind fun s' => greedy (Node.char test).run none s' k)
        fun _ => k s := by
  rw [greedy, if_neg (by simp), State.run_char]
  cases h : s.step? test with
  | none => rfl
  | some s' => simp [State.left_lt_of_step? h]

/-- The longest run is tried first. -/
theorem greedy_eq_some {s : State} (h : k (s.skip test) = some r) :
    greedy (Node.char test).run none s k = some r := by
  rw [greedy_char]
  cases hstep : s.step? test with
  | none =>
    rw [State.skip_of_step?_eq_none hstep] at h
    exact h
  | some s' =>
    rw [State.skip_of_step? hstep] at h
    rw [Option.bind_some, greedy_eq_some h]
    rfl
termination_by s.cursor.left
decreasing_by exact State.left_lt_of_step? hstep

/-- A run fails if it fails wherever it might stop. -/
theorem greedy_eq_none {s : State} (h : ∀ s', s'.skip test = s.skip test → k s' = none) :
    greedy (Node.char test).run none s k = none := by
  rw [greedy_char]
  cases hstep : s.step? test with
  | none => exact h s rfl
  | some s' =>
    have hskip := State.skip_of_step? hstep
    rw [Option.bind_some, greedy_eq_none fun t ht => h t (ht.trans hskip.symm)]
    exact h s rfl
termination_by s.cursor.left
decreasing_by exact State.left_lt_of_step? hstep

namespace Piece

theorem run_node (number : Option Nat) (test : CharTest) (s : State) (k : Continuation) :
    (Piece.run number test).node.run s k =
      ((s.opened number).step? test).bind fun s' =>
        greedy (Node.char test).run none s' fun s'' => k (s''.closed number) := by
  cases number with
  | none => exact State.run_char test s fun s' => greedy (Node.char test).run none s' k
  | some number =>
    exact State.run_char test (s.openGroup number) fun s' =>
      greedy (Node.char test).run none s' fun s'' => k (s''.closeGroup number)

theorem run_eq_some {piece : Piece} (hwalk : piece.walk? s = some s') (h : k s' = some r) :
    piece.node.run s k = some r := by
  cases piece with
  | char test =>
    rw [node, State.run_char]
    exact Option.bind_eq_some_iff.mpr ⟨s', hwalk, h⟩
  | run number test =>
    obtain ⟨t, hrun, rfl⟩ := Option.map_eq_some_iff.mp hwalk
    obtain ⟨t, hstep, rfl⟩ := Option.map_eq_some_iff.mp hrun
    rw [run_node, hstep]
    exact greedy_eq_some h

end Piece

theorem rowNode_nil_run (s : State) (k : Continuation) :
    (rowNode []).run s k = (walk? [] s).bind k := by
  change (if Anchor.finalLineEnd.holds s.cursor then k s else none) = _
  rw [walk?]
  split <;> rfl

theorem rowNode_cons_run (piece : Piece) (row : List Piece) (s : State) (k : Continuation) :
    (rowNode (piece :: row)).run s k = piece.node.run s fun s' => (rowNode row).run s' k := by
  cases row <;> rfl

/-- Where the walk comes through a row, so does the search. -/
theorem rowNode_run_eq_some (hwalk : walk? row s = some s') (h : k s' = some r) :
    (rowNode row).run s k = some r := by
  induction row generalizing s with
  | nil =>
    rw [rowNode_nil_run, hwalk]
    exact h
  | cons piece row ih =>
    obtain ⟨t, hpiece, hrest⟩ := Option.bind_eq_some_iff.mp hwalk
    rw [rowNode_cons_run]
    exact Piece.run_eq_some hpiece (ih hrest)

/-- A run that may stop before a line break at the very end takes the line break too. -/
theorem finalLineEnd_holds_skip (h : s.step? test = some s')
    (hend : Anchor.finalLineEnd.holds s.cursor = true) :
    Anchor.finalLineEnd.holds (s.skip test).cursor = true := by
  obtain ⟨c, d, hnext, -, rfl⟩ := State.exists_accepted_of_step? h
  have hafter : c = '\n' ∧ d.after = [] := by
    simpa [Anchor.holds, Cursor.after_of_next? hnext] using hend
  have hstop : State.step? test { s with cursor := d } = none := by
    simp [State.step?_eq, Cursor.next?_eq_none hafter.2]
  rw [State.skip_of_step? h, State.skip_of_step?_eq_none hstop]
  simp [Anchor.holds, hafter.2]

/-- Where a bounded run might stop earlier, what follows fails if it fails behind the whole run. -/
theorem Bounds.run_eq_none {number : Option Nat} (hbounds : Bounds test row)
    (hend : walk? row ((s.skip test).closed number) = none)
    (hrow : ∀ s, walk? row s = none → (rowNode row).run s k = none) :
    (rowNode row).run (s.closed number) k = none := by
  cases hstep : s.step? test with
  | none =>
    rw [State.skip_of_step?_eq_none hstep] at hend
    exact hrow _ hend
  | some s' =>
    refine hrow _ ?_
    cases row with
    | nil =>
      have hskip := finalLineEnd_holds_skip hstep
      simp only [walk?, State.closed_cursor] at hend ⊢
      split at hend
      · cases hend
      · exact if_neg fun h => ‹¬_› (hskip h)
    | cons piece row =>
      cases piece with
      | run => exact hbounds.elim
      | char next =>
        obtain ⟨c, d, hnext, hc, -⟩ := State.exists_accepted_of_step? hstep
        simp [walk?, Piece.walk?, State.step?_eq, hnext, hbounds c hc]

/-- Where the walk does not come through a row of bounded runs, neither does the search. -/
theorem rowNode_run_eq_none (hbounded : Bounded row) (hwalk : walk? row s = none) :
    (rowNode row).run s k = none := by
  induction row generalizing s with
  | nil => rw [rowNode_nil_run, hwalk, Option.bind_none]
  | cons piece row ih =>
    rw [rowNode_cons_run]
    cases piece with
    | char test =>
      rw [Piece.node, State.run_char]
      cases hstep : s.step? test with
      | none => rfl
      | some s' =>
        rw [walk?, Piece.walk?, hstep] at hwalk
        exact ih hbounded hwalk
    | run number test =>
      obtain ⟨hbounds, hrest⟩ := hbounded
      rw [Piece.run_node]
      cases hstep : (s.opened number).step? test with
      | none => rfl
      | some s' =>
        rw [walk?, Piece.walk?, State.run?, hstep] at hwalk
        refine greedy_eq_none fun t ht => hbounds.run_eq_none ?_ fun _ => ih hrest
        rw [ht]
        exact hwalk

end

end PasteRules.Regex
