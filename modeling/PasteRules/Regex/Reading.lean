import PasteRules.Regex.Source

/-! The state of reading a pattern: the symbols to come, the groups met so far, the alternatives of
the innermost open group, and the groups around it. -/
namespace PasteRules.Regex

/-- Flags in effect at some place of a pattern. -/
structure Flags where
  ignoreCase : Bool := false
  multiline : Bool := false
  dotAll : Bool := false
  verbose : Bool := false
  ascii : Bool := false
  unicode : Bool := false
  template : Bool := false
  deriving DecidableEq, Repr

namespace Flags

def ofLetter? : Char → Option Flags
  | 'i' => some { ignoreCase := true }
  | 'm' => some { multiline := true }
  | 's' => some { dotAll := true }
  | 'x' => some { verbose := true }
  | 'a' => some { ascii := true }
  | 'u' => some { unicode := true }
  | 't' => some { template := true }
  | _ => none

def union (f g : Flags) : Flags where
  ignoreCase := f.ignoreCase || g.ignoreCase
  multiline := f.multiline || g.multiline
  dotAll := f.dotAll || g.dotAll
  verbose := f.verbose || g.verbose
  ascii := f.ascii || g.ascii
  unicode := f.unicode || g.unicode
  template := f.template || g.template

/-- The flags of the first that are not of the second. -/
def without (f g : Flags) : Flags where
  ignoreCase := f.ignoreCase && !g.ignoreCase
  multiline := f.multiline && !g.multiline
  dotAll := f.dotAll && !g.dotAll
  verbose := f.verbose && !g.verbose
  ascii := f.ascii && !g.ascii
  unicode := f.unicode && !g.unicode
  template := f.template && !g.template

def meets (f g : Flags) : Bool :=
  (f.ignoreCase && g.ignoreCase) || (f.multiline && g.multiline) || (f.dotAll && g.dotAll) ||
    (f.verbose && g.verbose) || (f.template && g.template)

/-- Whether a flag that chooses the alphabet is among them. -/
def choosesAlphabet (f : Flags) : Bool := f.ascii || f.unicode

/-- The flags inside a group that turns some on and some off. A choice of alphabet replaces the
choice made outside. -/
def inside (outer on off : Flags) : Flags :=
  let kept := if on.choosesAlphabet then { outer with ascii := false, unicode := false } else outer
  (kept.union on).without off

def folding (f : Flags) : Folding :=
  if f.ignoreCase then if f.ascii then .ascii else .unicode else .exact

end Flags

/-- What a part is to a repetition that follows it. -/
inductive ItemKind where
  | place
  | repetition
  | other
  deriving DecidableEq, Repr

/-- A part of the alternative being read. -/
structure Item where
  node : Node
  kind : ItemKind
  deriving DecidableEq, Repr

/-- Alternatives being read: the finished ones in order, and the parts of the present one, the last
first. -/
structure Level where
  branches : List Node
  items : List Item
  flags : Flags
  deriving DecidableEq, Repr

namespace Level

/-- A level where nothing is read yet. -/
def fresh (flags : Flags) : Level := ⟨[], [], flags⟩

def branch (l : Level) : Node := .ofList (l.items.map Item.node).reverse

def node (l : Level) : Node :=
  match l.branches with
  | [] => l.branch
  | first :: rest => .ofAlternatives first (rest ++ [l.branch])

end Level

/-- What an open parenthesis began. -/
inductive Opener where
  | capture (number : Nat)
  | plain
  | atomic
  | look (behind negated : Bool) (formerLimit : Option Nat)
  | cond (number : Nat)
  deriving DecidableEq, Repr

/-- An open group: what began it, where, and the level around it. -/
structure Frame where
  opener : Opener
  start : Nat
  outer : Level
  deriving DecidableEq, Repr

/-- The groups met so far. `widths` has an entry for each, empty while the group is open; inside a
look-behind only groups with numbers below `limit` may be referred to; `pending` are the numbers of
conditions with their places, checked when all groups are known. -/
structure Groups where
  names : List (String × Nat)
  widths : List (Option Width)
  limit : Option Nat
  pending : List (Nat × Nat)
  deriving DecidableEq, Repr

namespace Groups

def none : Groups := ⟨[], [], .none, []⟩

def count (g : Groups) : Nat := g.widths.length

def width? (g : Groups) (number : Nat) : Option Width :=
  if number = 0 then .none else (g.widths[number - 1]?).join

def isClosed (g : Groups) (number : Nat) : Bool := (g.width? number).isSome

/-- The width of a group for the parts that refer to it. -/
def width (g : Groups) (number : Nat) : Width := (g.width? number).getD ⟨0, 0⟩

def close (g : Groups) (number : Nat) (w : Width) : Groups :=
  { g with widths := g.widths.set (number - 1) (some w) }

end Groups

/-- The state of reading, with the lookup of characters by their names, which stays the same. -/
structure Reading where
  source : Source
  groups : Groups
  level : Level
  frames : List Frame
  codeNamed? : String → Option Nat

abbrev Reader := StateT Reading (Except Failure)

namespace Reader

/-- A rejection some characters before the next symbol. -/
def reject {α : Type} (flaw : Flaw) (back : Nat) : Reader α := do
  (← get).source.reject flaw back

def rejectAt {α : Type} (flaw : Flaw) (position : Nat) : Reader α :=
  throw (.rejected ⟨flaw, some position⟩)

def rejectNowhere {α : Type} (flaw : Flaw) : Reader α := throw (.rejected ⟨flaw, none⟩)

def position : Reader Nat := return (← get).source.position

def peek : Reader (Option Symbol) := return (← get).source.next?

def advance : Reader Unit := do
  let s ← get
  let source ← s.source.advance
  set { s with source }

def take : Reader (Option Symbol) := do
  let x ← peek
  advance
  return x

/-- Takes the next symbol if it is a given character. -/
def eat (c : Char) : Reader Bool := do
  if (← peek) = some (.plain c) then
    advance
    return true
  return false

/-- Takes characters of a kind, up to a number of them. -/
def takeWhile (p : Char → Bool) : Nat → Reader (List Char)
  | 0 => return []
  | n + 1 => do
    match ← peek with
    | some (.plain c) =>
      if p c then
        advance
        return c :: (← takeWhile p n)
      else return []
    | _ => return []

/-- Takes a name up to its terminator. The number bounds the symbols. -/
def takeName (terminator : Char) (missing : Flaw) (soFar : List Char) : Nat → Reader (List Char)
  | 0 => return soFar
  | n + 1 => do
    match ← take with
    | none =>
      if soFar.isEmpty then reject missing 0
      else reject (.unterminatedName terminator) soFar.length
    | some x =>
      if x = .plain terminator then
        if soFar.isEmpty then reject missing 1 else return soFar
      else takeName terminator missing (soFar ++ x.chars) n

def bound : Reader Nat := return (← get).source.symbols.length + 1

def name (terminator : Char) (missing : Flaw) : Reader (List Char) := do
  takeName terminator missing [] (← bound)

def push (node : Node) (kind : ItemKind) : Reader Unit :=
  modify fun s => { s with level := { s.level with items := ⟨node, kind⟩ :: s.level.items } }

def flags : Reader Flags := return (← get).level.flags

/-- Refuses a reference inside a look-behind to a group that is open or lies in the look-behind. -/
def checkLimit (number : Nat) : Reader Unit := do
  let g := (← get).groups
  match g.limit with
  | none => return ()
  | some limit =>
    if !g.isClosed number then reject .openGroup 0
    if limit ≤ number then reject .groupOfSameLookbehind 0

end Reader
end PasteRules.Regex
