import PasteRules.Regex.Group
import PasteRules.Unicode.AsciiName

/-! Compiling a pattern: one pass over its symbols, then the checks that need the whole. -/
namespace PasteRules

/-- A compiled pattern: its text, the number of its groups, the numbers of its named groups, and
what it matches. -/
structure Regex where
  pattern : String
  groups : Nat
  names : List (String × Nat)
  root : Regex.Node
  deriving DecidableEq, Repr

namespace Regex

def countBound : Nat := 4294967295

/-- Repetition counts have at most this many digits. -/
def countDigitLimit : Nat := 4300

/-- Look-behinds are at most this wide. -/
def lookbehindBound : Nat := 4294967295

namespace Reader

def countOf (ds : List Char) : Reader Nat := do
  if countDigitLimit < ds.length then throw .countHasTooManyDigits
  let n := numberOf 10 ds
  if countBound ≤ n then rejectNowhere .countTooLarge
  return n

/-- The counts between braces, if they are well formed. Where they are not, nothing is taken. -/
def braces : Reader (Option (Nat × Option Nat)) := do
  let before ← get
  let n ← bound
  let lo ← takeWhile Char.isDigit n
  let hi ← if ← eat ',' then takeWhile Char.isDigit n else pure lo
  if ← eat '\x7d' then
    let least ← if lo.isEmpty then pure 0 else countOf lo
    if hi.isEmpty then return some (least, none)
    let most ← countOf hi
    if most < least then rejectAt .leastAboveMost before.source.position
    return some (least, some most)
  else
    set before
    return none

/-- The mark behind a quantifier that says which repetitions are tried first. -/
def greedMark : Reader Greed := do
  if ← eat '?' then return .lazy
  if ← eat '+' then return .possessive
  return .greedy

/-- Repeats the last part of the present alternative. The quantifier began at `start`. -/
def repeatLast (start least : Nat) (most : Option Nat) : Reader Unit := do
  match (← get).level.items with
  | [] => rejectAt .nothingToRepeat start
  | item :: _ =>
    match item.kind with
    | .place => rejectAt .nothingToRepeat start
    | .repetition => rejectAt .repeatedRepeat start
    | .other =>
      let greed ← greedMark
      modify fun s => { s with level := { s.level with items :=
        ⟨.loop greed least most item.node, .repetition⟩ :: s.level.items.drop 1 } }

/-- A brace, which begins a repetition or is a literal. -/
def brace (start : Nat) : Reader Unit := do
  if (← peek) = some (.plain '\x7d') then push (← literal '\x7b'.toNat) .other
  else
    match ← braces with
    | none => push (← literal '\x7b'.toNat) .other
    | some (least, most) => repeatLast start least most

/-- Skips a comment up to the end of its line. The number bounds the symbols. -/
def skipLine : Nat → Reader Unit
  | 0 => return ()
  | n + 1 => do
    match ← take with
    | none => return ()
    | some x => if x = .plain '\n' then return () else skipLine n

/-- White space that a verbose pattern may hold between its parts. -/
def isVerboseSpace (c : Char) : Bool :=
  c == ' ' || c == '\t' || c == '\n' || c == '\r' || c == '\x0b' || c == '\x0c'

/-- One plain character that is not the end of an alternative, already taken from `start`. -/
def plainSymbol (c : Char) (start : Nat) : Reader Unit := do
  let f ← flags
  if f.verbose && isVerboseSpace c then return ()
  if f.verbose && c = '#' then skipLine (← bound)
  else
    match c with
    | '[' => push (← charSet start) .other
    | '?' => repeatLast start 0 (some 1)
    | '*' => repeatLast start 0 none
    | '+' => repeatLast start 1 none
    | '\x7b' => brace start
    | '.' => push (.char (if f.dotAll then .every else .notNewline)) .other
    | '(' => openGroup start
    | '^' => push (.anchor (if f.multiline then .lineStart else .textStart)) .place
    | '$' => push (.anchor (if f.multiline then .lineEnd else .finalLineEnd)) .place
    | _ => push (← literal c.toNat) .other

/-- Reads up to the end of the pattern or to a parenthesis that closes nothing. The number bounds
the steps; each takes a symbol. -/
def parts : Nat → Reader Unit
  | 0 => return ()
  | n + 1 => do
    let s ← get
    match s.source.next? with
    | none => return ()
    | some (.plain ')') =>
      match s.frames with
      | [] => return ()
      | frame :: outer =>
        advance
        closeGroup frame outer
        parts n
    | some (.plain '|') =>
      nextBranch
      parts n
    | some (.plain c) =>
      advance
      plainSymbol c s.source.position
      parts n
    | some (.escaped c) =>
      advance
      let (node, kind) ← escape c
      push node kind
      parts n

/-- The whole pattern. Every group must be closed, the flags must agree, nothing may be left, and
the groups that conditions ask for must be there. -/
def pattern : Reader Node := do
  parts (← bound)
  let s ← get
  if let frame :: _ := s.frames then rejectAt .unterminatedGroup frame.start
  if s.level.flags.ascii && s.level.flags.unicode then throw .alphabetsContradict
  if s.source.next?.isSome then reject .unbalanced 0
  if let some (number, here) := s.groups.pending.find? (fun p => s.groups.count < p.1) then
    rejectAt (.unknownGroup number) here
  return s.level.node

end Reader

/-- The first part, from the left and from the outside, that cannot be carried out: a repetition in
a template, or a look-behind whose width is not fixed. -/
def Node.flaw? (template : Bool) : Node → Option Flaw
  | .seq a b => (a.flaw? template).or (b.flaw? template)
  | .alt a b => (a.flaw? template).or (b.flaw? template)
  | .group _ body => body.flaw? template
  | .loop greed _ _ body => if template then some (.repeatInTemplate greed) else body.flaw? template
  | .look .ahead _ body => body.flaw? template
  | .look (.behind w) _ body =>
    if lookbehindBound < w.least then some .lookbehindTooLong
    else if w.least ≠ w.most then some .lookbehindNotFixed
    else body.flaw? template
  | .atomic body => body.flaw? template
  | .cond _ yes no => (yes.flaw? template).or (no.flaw? template)
  | _ => none

/-- Compiles a pattern under flags. Characters may be given by name as far as the lookup knows the
name. -/
def compile (pattern : String) (flags : Flags := {})
    (codeNamed? : String → Option Nat := Unicode.asciiNamed?) : Except Failure Regex := do
  let source ← Source.ofPattern pattern.toList
  let (root, s) ← Reader.pattern.run ⟨source, .none, .fresh flags, [], codeNamed?⟩
  match root.flaw? s.level.flags.template with
  | some flaw => .error (.rejected ⟨flaw, none⟩)
  | none => .ok ⟨pattern, s.groups.count, s.groups.names, root⟩

end Regex
end PasteRules
