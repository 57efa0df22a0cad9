import PasteRules.Regex.Compile
import PasteRules.Regex.Cursor

/-! Matching by trying alternatives in order. A part is run with a continuation that matches what
comes after it; the first way through both is the result. -/
namespace PasteRules.Regex

/-- Where a group began and ended last. -/
structure Mark where
  opened : Option Cursor := none
  closed : Option Cursor := none
  deriving DecidableEq, Repr

/-- The state of matching: a place and the groups' marks. -/
structure State where
  cursor : Cursor
  marks : List Mark
  deriving DecidableEq, Repr

/-- The text of a group, once it has begun and ended in this order. -/
def Mark.text? (m : Mark) : Option (List Char) :=
  match m.opened, m.closed with
  | some a, some b => if b.left ≤ a.left then some (a.slice b) else none
  | _, _ => none

namespace State

def mark (s : State) (number : Nat) : Mark := s.marks.getD (number - 1) {}

def setMark (s : State) (number : Nat) (m : Mark) : State :=
  { s with marks := s.marks.set (number - 1) m }

def openGroup (s : State) (number : Nat) : State :=
  s.setMark number { s.mark number with opened := some s.cursor }

def closeGroup (s : State) (number : Nat) : State :=
  s.setMark number { s.mark number with closed := some s.cursor }

end State

/-- Whether two characters are equal under folding. -/
def sameChar (folding : Folding) (x y : Char) : Bool :=
  folding.fold x.toNat == folding.fold y.toNat

/-- The place behind a text that stands at another place. -/
def Cursor.behindText? (folding : Folding) (c : Cursor) : List Char → Option Cursor
  | [] => some c
  | x :: rest =>
    match c.next? with
    | some (y, d) => if sameChar folding x y then d.behindText? folding rest else none
    | none => none

def isWordChar (ascii : Bool) : Option Char → Bool
  | some c => CharClass.word.contains ascii c.toNat
  | none => false

/-- Whether a place is where an anchor asks it to be. An empty text has no word edges, and no places
that are none either. -/
def Anchor.holds (a : Anchor) (c : Cursor) : Bool :=
  let isEdge (ascii : Bool) : Bool :=
    isWordChar ascii c.before.head? != isWordChar ascii c.after.head?
  let isEmpty := c.before.isEmpty && c.after.isEmpty
  match a with
  | .textStart => c.before.isEmpty
  | .lineStart => c.before.isEmpty || c.before.head? == some '\n'
  | .textEnd => c.after.isEmpty
  | .lineEnd => c.after.isEmpty || c.after.head? == some '\n'
  | .finalLineEnd => c.after.isEmpty || c.after == ['\n']
  | .wordEdge ascii => !isEmpty && isEdge ascii
  | .noWordEdge ascii => !isEmpty && !isEdge ascii

/-- What follows a part: it takes the state behind the part and ends the match or fails. -/
abbrev Continuation := State → Option State

abbrev Matcher := State → Continuation → Option State

namespace Matcher

def orElse (first : Option State) (second : Unit → Option State) : Option State :=
  match first with
  | some r => some r
  | none => second ()

/-- The part a number of times. -/
def times (body : Matcher) : Nat → Matcher
  | 0, s, k => k s
  | n + 1, s, k => body s fun s' => times body n s' k

/-- The part as often as possible, up to a bound. A round that does not move on is the last. -/
def greedy (body : Matcher) (most : Option Nat) (s : State) (k : Continuation) : Option State :=
  if most = some 0 then k s
  else
    orElse
      (body s fun s' =>
        if s'.cursor.left < s.cursor.left then greedy body (most.map (· - 1)) s' k else k s')
      fun _ => k s
termination_by s.cursor.left

/-- The part as seldom as possible, up to a bound. A round that does not move on is the last. -/
def lazy (body : Matcher) (most : Option Nat) (s : State) (k : Continuation) : Option State :=
  orElse (k s) fun _ =>
    if most = some 0 then none
    else
      body s fun s' =>
        if s'.cursor.left < s.cursor.left then lazy body (most.map (· - 1)) s' k else k s'
termination_by s.cursor.left

/-- The state after as many rounds as possible, each taken in its first way alone. -/
def possessive (body : Matcher) (most : Option Nat) (s : State) : State :=
  if most = some 0 then s
  else
    match body s some with
    | none => s
    | some s' =>
      if s'.cursor.left < s.cursor.left then possessive body (most.map (· - 1)) s' else s'
termination_by s.cursor.left

/-- The state after a number of rounds, each taken in its first way alone. -/
def timesFirst (body : Matcher) : Nat → State → Option State
  | 0, s => some s
  | n + 1, s => (body s some).bind (timesFirst body n)

/-- A repetition: the rounds that must be, then those that may be. -/
def loop (body : Matcher) (greed : Greed) (least : Nat) (most : Option Nat) : Matcher :=
  fun s k =>
    let more := most.map (· - least)
    match greed with
    | .greedy => times body least s fun s' => greedy body more s' k
    | .lazy => times body least s fun s' => lazy body more s' k
    | .possessive => (timesFirst body least s).bind fun s' => k (possessive body more s')

/-- A look-around. What its part matches is not consumed; its marks stay if it is not negated. -/
def look (body : Matcher) (side : Side) (negated : Bool) : Matcher := fun s k =>
  let start := match side with
    | .ahead => some s.cursor
    | .behind w => s.cursor.back? w.least
  let found := start.bind fun c => body { s with cursor := c } some
  match found, negated with
  | some s', false => k { s' with cursor := s.cursor }
  | none, true => k s
  | _, _ => none

end Matcher

def Node.run : Node → Matcher
  | .empty => fun s k => k s
  | .char test => fun s k =>
    match s.cursor.next? with
    | some (c, cursor) => if test.accepts c then k { s with cursor } else none
    | none => none
  | .anchor place => fun s k => if place.holds s.cursor then k s else none
  | .seq a b => fun s k => a.run s fun s' => b.run s' k
  | .alt a b => fun s k => Matcher.orElse (a.run s k) fun _ => b.run s k
  | .group number body => fun s k =>
    body.run (s.openGroup number) fun s' => k (s'.closeGroup number)
  | .loop greed least most body => Matcher.loop body.run greed least most
  | .look side negated body => Matcher.look body.run side negated
  | .atomic body => fun s k => (body.run s some).bind k
  | .backref number folding => fun s k =>
    match (s.mark number).text? with
    | some text => (s.cursor.behindText? folding text).bind fun cursor => k { s with cursor }
    | none => none
  | .cond number yes no => fun s k =>
    if (s.mark number).text?.isSome then yes.run s k else no.run s k

/-- A match: where it begins and ends, and the marks of the groups. -/
structure Match where
  start : Cursor
  finish : Cursor
  marks : List Mark
  deriving DecidableEq, Repr

namespace Match

def whole (m : Match) : List Char := m.start.slice m.finish

def before (m : Match) : List Char := m.start.before.reverse

def after (m : Match) : List Char := m.finish.after

/-- The text of a group: nothing for a number that no group has, and within that nothing for a group
that took no part. Number zero is the whole match. -/
def group? (m : Match) (number : Nat) : Option (Option (List Char)) :=
  if number = 0 then some (some m.whole) else (m.marks[number - 1]?).map Mark.text?

end Match

/-- The match that begins at a place. If it has to move on, an empty one does not count. -/
def matchAt? (r : Regex) (c : Cursor) (mustMove : Bool) : Option Match :=
  let final (s : State) : Option State :=
    if mustMove && s.cursor.left == c.left then none else some s
  (r.root.run ⟨c, List.replicate r.groups {}⟩ final).map fun s => ⟨c, s.cursor, s.marks⟩

/-- The first match that begins at or behind a place. Only one at the place itself has to move on.
-/
def search? (r : Regex) (c : Cursor) (mustMove : Bool) : Option Match :=
  match r.matchAt? c mustMove with
  | some m => some m
  | none =>
    match _h : c.next? with
    | some (_, d) => r.search? d false
    | none => none
termination_by c.left
decreasing_by exact Cursor.left_lt_of_next? _h

def find? (r : Regex) (text : List Char) : Option Match := r.search? (.ofText text) false

/-- All matches from a place on, from left to right. The search goes on where the last match ended,
and behind an empty match the next one has to move on. -/
def matchesFrom (r : Regex) (c : Cursor) (mustMove : Bool) : List Match :=
  match r.search? c mustMove with
  | none => []
  | some m =>
    if m.finish.left < c.left then m :: r.matchesFrom m.finish (m.finish.left == m.start.left)
    else if mustMove then [m]
    else m :: (if m.finish.left = c.left then r.matchesFrom m.finish true else [])
termination_by 2 * c.left + (if mustMove then 0 else 1)
decreasing_by
  · grind
  · simp_all

/-- Text with the matches replaced, from a place behind the ones before. -/
def splice (replacement : Match → List Char) (c : Cursor) : List Match → List Char
  | [] => c.after
  | m :: rest => c.slice m.start ++ replacement m ++ splice replacement m.finish rest

def replace (r : Regex) (replacement : Match → List Char) (text : List Char) : List Char :=
  splice replacement (.ofText text) (r.matchesFrom (.ofText text) false)

end PasteRules.Regex
