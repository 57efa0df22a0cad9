import PasteRules.Proofs.Regex.Row

/-! Walking through a text that is put together like a row. -/
namespace PasteRules.Regex

def Cursor.between (before after : List Char) : Cursor :=
  ⟨before.reverse, after, after.length, (ofText after).left_eq⟩

def Mark.around (before inside after : List Char) : Mark :=
  ⟨some (.between before (inside ++ after)), some (.between (before ++ inside) after)⟩

/-- A literal character, as it stands or any other one. -/
def CharTest.is (c : Char) (negated : Bool) : CharTest := .literal c.toNat negated .exact

structure IsRun (test : CharTest) (text : List Char) : Prop where
  ne_nil : text ≠ []
  accepted : ∀ c ∈ text, test.accepts c = true

def spell (text : List Char) : List Piece := text.map fun c => .char (.is c false)

section

variable {before after inside : List Char} {marks : List Mark} {test : CharTest}
  {row : List Piece} {c : Char}

theorem CharTest.accepts_is (c d : Char) (negated : Bool) :
    (CharTest.is c negated).accepts d = ((d == c) != negated) := by
  have hcode : (d.toNat == c.toNat) = (d == c) := by
    rw [Bool.eq_iff_iff, beq_iff_eq, beq_iff_eq]
    exact Char.toNat_inj
  simp [CharTest.is, CharTest.accepts, CharTest.sameLiteral, Folding.isCased, hcode]

namespace Cursor

@[simp]
theorem next?_between_nil (before : List Char) : (between before []).next? = none := rfl

@[simp]
theorem next?_between_cons (before after : List Char) (c : Char) :
    (between before (c :: after)).next? = some (c, between (before ++ [c]) after) := by
  simp [between, next?]

theorem slice_between (before inside after : List Char) :
    (between before (inside ++ after)).slice (between (before ++ inside) after) = inside := by
  simp [between, slice]

end Cursor

theorem Mark.text?_around (before inside after : List Char) :
    (Mark.around before inside after).text? = some inside := by
  have hslice := Cursor.slice_between before inside after
  have hleft : (Cursor.between (before ++ inside) after).left ≤
      (Cursor.between before (inside ++ after)).left := by
    simp [Cursor.between]
  simp [around, text?, hleft, hslice]

/-- A match up to the end of the text. -/
theorem Match.whole_eq (text before : List Char) (marks : List Mark) :
    (⟨.ofText text, .between before [], marks⟩ : Match).whole = text := by
  simp [whole, Cursor.slice, Cursor.ofText, Cursor.between]

namespace State

theorem step?_between_cons (before after : List Char) (marks : List Mark)
    (h : test.accepts c = true) :
    step? test ⟨.between before (c :: after), marks⟩ =
      some ⟨.between (before ++ [c]) after, marks⟩ := by
  simp [step?_eq, h]

theorem step?_between_eq_none (before : List Char) (marks : List Mark)
    (h : ∀ c ∈ after.head?, test.accepts c = false) :
    step? test ⟨.between before after, marks⟩ = none := by
  cases after with
  | nil => simp [step?_eq]
  | cons c after => simp [step?_eq, h c rfl]

theorem skip_between (before : List Char) (marks : List Mark)
    (hinside : ∀ c ∈ inside, test.accepts c = true)
    (hafter : ∀ c ∈ after.head?, test.accepts c = false) :
    skip test ⟨.between before (inside ++ after), marks⟩ =
      ⟨.between (before ++ inside) after, marks⟩ := by
  induction inside generalizing before with
  | nil => simpa using skip_of_step?_eq_none (step?_between_eq_none before marks hafter)
  | cons c inside ih =>
    have hc := hinside c List.mem_cons_self
    rw [List.cons_append, skip_of_step? (step?_between_cons _ _ _ hc),
      ih _ fun d hd => hinside d (List.mem_cons_of_mem _ hd)]
    simp

/-- A run takes what is inside, if what comes after cannot belong to it. -/
theorem run?_between (before after : List Char) (marks : List Mark) (hinside : IsRun test inside)
    (hafter : ∀ c ∈ after.head?, test.accepts c = false) :
    run? test ⟨.between before (inside ++ after), marks⟩ =
      some ⟨.between (before ++ inside) after, marks⟩ := by
  have hskip := skip_between before marks hinside.accepted hafter
  cases inside with
  | nil => exact absurd rfl hinside.ne_nil
  | cons c inside =>
    have hstep := step?_between_cons before (inside ++ after) marks
      (hinside.accepted c List.mem_cons_self)
    rw [List.cons_append] at hskip ⊢
    rw [run?, hstep, Option.map_some, ← skip_of_step? hstep, hskip]

/-- A group that is opened before what is inside and closed behind it. -/
theorem closeGroup_between (before inside after : List Char) {number : Nat}
    (hnumber : number - 1 < marks.length) :
    closeGroup ⟨.between (before ++ inside) after,
        (openGroup ⟨.between before (inside ++ after), marks⟩ number).marks⟩ number =
      ⟨.between (before ++ inside) after,
        marks.set (number - 1) (.around before inside after)⟩ := by
  simp [closeGroup, openGroup, setMark, mark, Mark.around, List.getD_eq_getElem?_getD, hnumber]

end State

theorem walk?_end (before : List Char) (marks : List Mark) :
    walk? [] ⟨.between before [], marks⟩ = some ⟨.between before [], marks⟩ := rfl

theorem walk?_char (before after : List Char) (marks : List Mark) (h : test.accepts c = true)
    (row : List Piece) :
    walk? (.char test :: row) ⟨.between before (c :: after), marks⟩ =
      walk? row ⟨.between (before ++ [c]) after, marks⟩ := by
  rw [walk?, Piece.walk?, State.step?_between_cons _ _ _ h]
  rfl

theorem walk?_spell (before text after : List Char) (marks : List Mark) (row : List Piece) :
    walk? (spell text ++ row) ⟨.between before (text ++ after), marks⟩ =
      walk? row ⟨.between (before ++ text) after, marks⟩ := by
  induction text generalizing before with
  | nil => simp [spell]
  | cons c text ih =>
    have hc : (CharTest.is c false).accepts c = true := by simp [CharTest.accepts_is]
    rw [List.append_cons before, ← ih]
    exact walk?_char before (text ++ after) marks hc (spell text ++ row)

theorem walk?_run (before after : List Char) (marks : List Mark) (hinside : IsRun test inside)
    (hafter : ∀ c ∈ after.head?, test.accepts c = false) (row : List Piece) :
    walk? (.run none test :: row) ⟨.between before (inside ++ after), marks⟩ =
      walk? row ⟨.between (before ++ inside) after, marks⟩ := by
  have hrun := State.run?_between before after marks hinside hafter
  exact congrArg (fun found => (found.map (·.closed none)).bind (walk? row)) hrun

theorem walk?_group (before after : List Char) {number : Nat} (hnumber : number - 1 < marks.length)
    (hinside : IsRun test inside) (hafter : ∀ c ∈ after.head?, test.accepts c = false)
    (row : List Piece) :
    walk? (.run (some number) test :: row) ⟨.between before (inside ++ after), marks⟩ =
      walk? row ⟨.between (before ++ inside) after,
        marks.set (number - 1) (.around before inside after)⟩ := by
  let start : State := ⟨.between before (inside ++ after), marks⟩
  have hrun := State.run?_between before after (start.openGroup number).marks hinside hafter
  rw [← State.closeGroup_between before inside after hnumber]
  exact congrArg (fun found => (found.map (·.closed (some number))).bind (walk? row)) hrun

/-- A run that is all that is left and has a group. -/
theorem walk?_last_group (before : List Char) {number : Nat} (hnumber : number - 1 < marks.length)
    (hinside : IsRun test inside) :
    walk? [.run (some number) test] ⟨.between before inside, marks⟩ =
      some ⟨.between (before ++ inside) [],
        marks.set (number - 1) (.around before inside [])⟩ := by
  have hgroup := walk?_group before [] hnumber hinside (by simp) []
  rwa [List.append_nil, walk?_end] at hgroup

/-- A row of characters fails where one of them does. -/
theorem walk?_chars_eq_none (before : List Char) (marks : List Mark) {tests : List CharTest}
    {i : Nat} (hi : i < tests.length)
    (hreject : ∀ c ∈ after[i]?, tests[i].accepts c = false) (row : List Piece) :
    walk? (tests.map Piece.char ++ row) ⟨.between before after, marks⟩ = none := by
  induction tests generalizing before after i with
  | nil => exact absurd hi (Nat.not_lt_zero i)
  | cons test tests ih =>
    rw [List.map_cons, List.cons_append, walk?, Piece.walk?]
    cases after with
    | nil =>
      rw [State.step?_between_eq_none _ _ (by simp)]
      rfl
    | cons c after =>
      cases hc : test.accepts c with
      | false =>
        rw [State.step?_between_eq_none _ _ (by simpa using hc)]
        rfl
      | true =>
        rw [State.step?_between_cons _ _ _ hc, Option.bind_some]
        cases i with
        | zero => simp [hc] at hreject
        | succ i => exact ih _ (Nat.lt_of_succ_lt_succ hi) hreject

theorem bounded_spell (text : List Char) (hrow : Bounded row) : Bounded (spell text ++ row) := by
  induction text with
  | nil => exact hrow
  | cons c text ih => exact ih

/-- A spelled text fails where another character stands. -/
theorem walk?_spell_eq_none (before : List Char) (marks : List Mark) {text : List Char} {i : Nat}
    (hi : i < text.length) (hother : ∀ c ∈ after[i]?, c ≠ text[i]) (row : List Piece) :
    walk? (spell text ++ row) ⟨.between before after, marks⟩ = none := by
  have hspell : spell text = (text.map fun c => CharTest.is c false).map Piece.char := by
    simp [spell]
  rw [hspell]
  refine walk?_chars_eq_none before marks (i := i) (by simpa using hi) (fun c hc => ?_) row
  simpa [CharTest.accepts_is] using hother c hc

end

end PasteRules.Regex
