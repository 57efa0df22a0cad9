import PasteRules.Regex.Set
import PasteRules.Unicode.Letter
import PasteRules.Unicode.NameStart
import PasteRules.Unicode.NameContinue

/-! Groups: what stands behind an opening parenthesis, and what its closing one makes of the
alternatives between them. -/
namespace PasteRules.Regex

def isGroupName : List Char → Bool
  | [] => false
  | c :: rest => Unicode.isNameStart c && rest.all Unicode.isNameContinue

/-- Decimal digits of any script, with single underscores between them. -/
def looseDigits (afterDigit : Bool) : List Char → Option (List Nat)
  | [] => if afterDigit then some [] else none
  | c :: rest =>
    if c = '_' then if afterDigit then looseDigits false rest else none
    else do
      let d ← Unicode.digitValue? c
      let ds ← looseDigits true rest
      return d :: ds

/-- A number as a condition may spell it: white space around it, a sign in front. -/
def looseNumber? (cs : List Char) : Option Int := do
  let trimmed := ((cs.dropWhile Unicode.isBlank).reverse.dropWhile Unicode.isBlank).reverse
  let (negative, digits) := match trimmed with
    | '-' :: rest => (true, rest)
    | '+' :: rest => (false, rest)
    | rest => (false, rest)
  let ds ← looseDigits false digits
  if ds.length ≤ 4300 then
    let n : Nat := ds.foldl (fun n d => n * 10 + d) 0
    return if negative then -(n : Int) else n
  else none

def groupNumberBound : Nat := 1073741823

/-- Groups nest less deep than this. -/
def depthBound : Nat := 490

namespace Reader

def groupName (terminator : Char) : Reader String := do
  let cs ← name terminator .missingGroupName
  if isGroupName cs then return String.ofList cs
  reject (.badGroupName (String.ofList cs)) (cs.length + 1)

/-- Numbers a new group, under a name if it has one. -/
def newGroup (groupName : Option String) : Reader Nat := do
  let s ← get
  let number := s.groups.count + 1
  match groupName with
  | none =>
    set { s with groups := { s.groups with widths := s.groups.widths ++ [none] } }
  | some n =>
    if let some former := s.groups.names.lookup n then
      reject (.repeatedGroupName n number former) (n.length + 1)
    set { s with groups :=
      { s.groups with
        widths := s.groups.widths ++ [none], names := s.groups.names ++ [(n, number)] } }
  return number

def enter (opener : Opener) (start : Nat) (inner : Flags) : Reader Unit := do
  let s ← get
  if depthBound ≤ s.frames.length then rejectNowhere .nestedTooDeep
  set { s with level := .fresh inner, frames := ⟨opener, start, s.level⟩ :: s.frames }

/-- Goes inside a look-around. The outermost look-behind bars the groups that begin in it. -/
def enterLook (behind negated : Bool) (start : Nat) : Reader Unit := do
  let g := (← get).groups
  let f ← flags
  if behind && g.limit.isNone then
    modify fun s => { s with groups := { s.groups with limit := some (s.groups.count + 1) } }
  enter (.look behind negated g.limit) start f

/-- Skips a comment up to its closing parenthesis. The number bounds the symbols. -/
def skipComment (start : Nat) : Nat → Reader Unit
  | 0 => return ()
  | n + 1 => do
    match ← peek with
    | none => rejectAt .unterminatedComment start
    | some x =>
      advance
      if x = .plain ')' then return () else skipComment start n

/-- A reference to a group by name. -/
def namedReference : Reader Unit := do
  let n ← groupName ')'
  let g := (← get).groups
  match g.names.lookup n with
  | none => reject (.unknownGroupName n) (n.length + 1)
  | some number =>
    if !g.isClosed number then reject .openGroup (n.length + 1)
    checkLimit number
    push (.backref number (← flags).folding) .other

/-- The group that a condition asks for. A number may belong to a group still to come. -/
def condition : Reader Nat := do
  let cs ← name ')' .missingGroupName
  let n := String.ofList cs
  if isGroupName cs then
    match (← get).groups.names.lookup n with
    | none => reject (.unknownGroupName n) (cs.length + 1)
    | some number => return number
  else
    match looseNumber? cs with
    | none => reject (.badGroupName n) (cs.length + 1)
    | some i =>
      if i < 0 then reject (.badGroupName n) (cs.length + 1)
      if i = 0 then reject .groupZero (cs.length + 1)
      let number := i.toNat
      if groupNumberBound ≤ number then reject (.unknownGroup number) (cs.length + 1)
      let here := (← position) - (cs.length + 1)
      modify fun s =>
        if (s.groups.pending.lookup number).isSome then s
        else { s with groups := { s.groups with pending := s.groups.pending ++ [(number, here)] } }
      return number

/-- The flag of a letter where a flag must stand, or the complaint about what stands there. -/
def flagOf (x : Symbol) (otherwise : Flaw) : Reader Flags := do
  match x with
  | .plain c =>
    match Flags.ofLetter? c with
    | some f => return f
    | none => reject (if Unicode.isLetter c then .unknownFlag else otherwise) 1
  | .escaped _ => reject otherwise 2

/-- Flags to turn on, from a first letter up to the character that ends them. -/
def flagsOn (x : Symbol) (soFar : Flags) : Nat → Reader (Flags × Char)
  | 0 => return (soFar, ')')
  | n + 1 => do
    if x = .plain 'L' then reject .localeFlag 0
    let f ← flagOf x .missingFlagEnd
    let on := soFar.union f
    if f.choosesAlphabet && on.ascii && on.unicode then reject .alphabetFlagsClash 0
    match ← take with
    | none => reject .missingFlagEnd 0
    | some y =>
      if y = .plain ')' then return (on, ')')
      if y = .plain ':' then return (on, ':')
      if y = .plain '-' then return (on, '-')
      if y = .plain 'L' then flagsOn y on n
      else
        let _ ← flagOf y .missingFlagEnd
        flagsOn y on n

/-- Flags to turn off, from a first letter up to the colon. -/
def flagsOff (x : Symbol) (soFar : Flags) : Nat → Reader Flags
  | 0 => return soFar
  | n + 1 => do
    if x = .plain 'L' then reject .alphabetFlagOff 0
    let f ← flagOf x .missingColon
    if f.choosesAlphabet then reject .alphabetFlagOff 0
    let off := soFar.union f
    match ← take with
    | none => reject .missingColon 0
    | some y =>
      if y = .plain ':' then return off
      if y = .plain 'L' then flagsOff y off n
      else
        let _ ← flagOf y .missingColon
        flagsOff y off n

/-- Flags for the whole pattern, allowed only where nothing came before. -/
def globalFlags (on : Flags) (start : Nat) : Reader Unit := do
  let s ← get
  if !(s.frames.isEmpty && s.level.branches.isEmpty && s.level.items.isEmpty) then
    rejectAt .flagsNotAtStart start
  set { s with level := { s.level with flags := s.level.flags.union on } }

/-- Flags for a group, or for the whole pattern, that begin with a given symbol. -/
def flagGroup (x : Symbol) (start : Nat) : Reader Unit := do
  let outer ← flags
  let n ← bound
  let (on, stop) ← if x = .plain '-' then pure ({}, '-') else flagsOn x {} n
  if stop = ')' then globalFlags on start
  else
    if on.template then reject .globalFlagOn 1
    if stop = '-' then
      match ← take with
      | none => reject .missingFlag 0
      | some y =>
        if y != .plain 'L' then
          let _ ← flagOf y .missingFlag
        let off ← flagsOff y {} n
        if off.template then reject .globalFlagOff 1
        if on.meets off then reject .flagOnAndOff 1
        enter .plain start (outer.inside on off)
    else enter .plain start (outer.inside on {})

/-- What stands behind an opening parenthesis and a question mark. -/
def extension (start : Nat) : Reader Unit := do
  let f ← flags
  match ← take with
  | none => reject .endOfPattern 0
  | some x =>
    match x with
    | .plain 'P' =>
      if ← eat '<' then
        let n ← groupName '>'
        enter (.capture (← newGroup (some n))) start f
      else if ← eat '=' then namedReference
      else
        match ← take with
        | none => reject .endOfPattern 0
        | some y => reject (.unknownExtension ('P' :: y.chars)) (y.width + 2)
    | .plain ':' => enter .plain start f
    | .plain '#' => skipComment start (← bound)
    | .plain '=' => enterLook false false start
    | .plain '!' => enterLook false true start
    | .plain '<' =>
      match ← take with
      | none => reject .endOfPattern 0
      | some y =>
        if y = .plain '=' then enterLook true false start
        else if y = .plain '!' then enterLook true true start
        else reject (.unknownExtension ('<' :: y.chars)) (y.width + 2)
    | .plain '(' =>
      let number ← condition
      checkLimit number
      enter (.cond number) start f
    | .plain '>' => enter .atomic start f
    | .plain c =>
      if c = '-' || c = 'L' || (Flags.ofLetter? c).isSome then flagGroup x start
      else reject (.unknownExtension [c]) 2
    | .escaped _ => reject (.unknownExtension x.chars) (x.width + 1)

/-- What stands behind an opening parenthesis at `start`. -/
def openGroup (start : Nat) : Reader Unit := do
  if ← eat '?' then extension start
  else
    let number ← newGroup none
    enter (.capture number) start (← flags)

def finish (opener : Opener) (level : Level) : Reader Node := do
  let g := (← get).groups
  match opener with
  | .capture number =>
    modify fun s => { s with groups := s.groups.close number (level.node.width s.groups.width) }
    return .group number level.node
  | .plain => return level.node
  | .atomic => return .atomic level.node
  | .look behind negated formerLimit =>
    modify fun s => { s with groups := { s.groups with limit := formerLimit } }
    let side := if behind then .behind (level.node.width g.width) else .ahead
    return .look side negated level.node
  | .cond number =>
    match level.branches with
    | [] => return .cond number level.branch .empty
    | yes :: _ => return .cond number yes level.branch

def closeGroup (frame : Frame) (outer : List Frame) : Reader Unit := do
  let node ← finish frame.opener (← get).level
  modify fun s => { s with level := frame.outer, frames := outer }
  push node .other

/-- Begins the next alternative. A condition has two. -/
def nextBranch : Reader Unit := do
  let s ← get
  if let ⟨.cond _, _, _⟩ :: _ := s.frames then
    if !s.level.branches.isEmpty then reject .thirdBranch 0
  advance
  modify fun s => { s with level :=
    { s.level with branches := s.level.branches ++ [s.level.branch], items := [] } }

end Reader
end PasteRules.Regex
