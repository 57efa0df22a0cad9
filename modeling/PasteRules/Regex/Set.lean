import PasteRules.Regex.Escape

/-! Sets of characters in brackets. -/
namespace PasteRules.Regex.Reader

/-- A single character of a set, or the escape it begins. -/
def setAtom : Symbol → Reader CharItem
  | .plain c => return .code c.toNat
  | .escaped c => setEscape c

def setRange (first last : Symbol) (lo hi : CharItem) : Reader CharItem := do
  match lo, hi with
  | .code a, .code b =>
    if a ≤ b then return .range a b else bad
  | _, _ => bad
where
  /-- The interval is refused with both symbols as they stand. -/
  bad : Reader CharItem :=
    reject (.badRange first.chars last.chars) (first.width + 1 + last.width)

/-- The parts of a set up to its closing bracket, which is a literal where nothing came before. The
number bounds the symbols. -/
def setItems (start : Nat) (soFar : List CharItem) : Nat → Reader (List CharItem)
  | 0 => return soFar
  | n + 1 => do
    match ← take with
    | none => rejectAt .unterminatedSet start
    | some x =>
      if x = .plain ']' && !soFar.isEmpty then return soFar
      let first ← setAtom x
      if ← eat '-' then
        match ← take with
        | none => rejectAt .unterminatedSet start
        | some y =>
          if y = .plain ']' then return soFar ++ [first, .code '-'.toNat]
          let last ← setAtom y
          let r ← setRange x y first last
          setItems start (soFar ++ [r]) n
      else setItems start (soFar ++ [first]) n

/-- The set that begins behind its opening bracket at `start`. A set of one code point is a literal.
-/
def charSet (start : Nat) : Reader Node := do
  let negated ← eat '^'
  let items ← setItems start [] (← bound)
  let f ← flags
  match items.eraseDups with
  | [.code n] => return .char (.literal n negated f.folding)
  | items => return .char (.set negated items f.ascii f.folding)

end PasteRules.Regex.Reader
