import PasteRules.Regex.Reading

/-! Escapes: a backslash, a character, and what the character asks for. -/
namespace PasteRules.Regex

def isOctal (c : Char) : Bool := '0' ≤ c && c ≤ '7'

def isHex (c : Char) : Bool :=
  c.isDigit || ('a' ≤ c && c ≤ 'f') || ('A' ≤ c && c ≤ 'F')

/-- The value of one digit of a base up to sixteen. -/
def digitOf (c : Char) : Nat :=
  if c.isDigit then c.toNat - 48 else if c.isLower then c.toNat - 87 else c.toNat - 55

def numberOf (base : Nat) (ds : List Char) : Nat := ds.foldl (fun n c => n * base + digitOf c) 0

/-- The letters that stand for a control character. -/
def controlCode? : Char → Option Nat
  | 'a' => some 7
  | 'f' => some 12
  | 'n' => some 10
  | 'r' => some 13
  | 't' => some 9
  | 'v' => some 11
  | '\\' => some 92
  | _ => none

/-- The letters that stand for a class or its complement. -/
def classOf? : Char → Option (CharClass × Bool)
  | 'd' => some (.digit, false)
  | 'D' => some (.digit, true)
  | 's' => some (.space, false)
  | 'S' => some (.space, true)
  | 'w' => some (.word, false)
  | 'W' => some (.word, true)
  | _ => none

/-- The number of hexadecimal digits behind a letter that asks for them. -/
def hexCount? : Char → Option Nat
  | 'x' => some 2
  | 'u' => some 4
  | 'U' => some 8
  | _ => none

namespace Reader

/-- A code point in hexadecimal digits, exactly as many as the letter asks for. -/
def hexCode (letter : Char) (count : Nat) : Reader Nat := do
  let ds ← takeWhile isHex count
  let text := '\\' :: letter :: ds
  if ds.length < count then reject (.incompleteEscape text) text.length
  let code := numberOf 16 ds
  if 0x10ffff < code then reject (.badEscape text) text.length
  return code

/-- A character by its name. -/
def namedCode : Reader Nat := do
  if !(← eat '\x7b') then reject .missingBrace 0
  let chars ← name '\x7d' .missingCharacterName
  match (← get).codeNamed? (String.ofList chars) with
  | some code => return code
  | none => reject (.unknownCharacterName (String.ofList chars)) (chars.length + 4)

/-- An escape inside a set: a code point or a class. -/
def setEscape (c : Char) : Reader CharItem := do
  if c = 'b' then return .code 8
  if let some code := controlCode? c then return .code code
  if let some (k, negated) := classOf? c then return .kind k negated
  if let some count := hexCount? c then return .code (← hexCode c count)
  if c = 'N' then return .code (← namedCode)
  if isOctal c then
    let ds := c :: (← takeWhile isOctal 2)
    let text := '\\' :: ds
    if 0o377 < numberOf 8 ds then reject (.octalTooLarge text) text.length
    return .code (numberOf 8 ds)
  if c.isDigit || c.isAlpha then reject (.badEscape ['\\', c]) 2
  return .code c.toNat

def literal (code : Nat) : Reader Node :=
  return .char (.literal code false (← flags).folding)

/-- A reference to a group by number, which must be there and finished. -/
def groupReference (ds : List Char) : Reader Node := do
  let number := numberOf 10 ds
  let g := (← get).groups
  if g.count < number then reject (.unknownGroup number) ds.length
  if !g.isClosed number then reject .openGroup (ds.length + 1)
  checkLimit number
  return .backref number (← flags).folding

/-- A digit from one on: three octal digits are a code point, anything else refers to a group. -/
def digitEscape (c : Char) : Reader Node := do
  match ← takeWhile Char.isDigit 1 with
  | [] => groupReference [c]
  | d :: _ =>
    if isOctal c && isOctal d then
      match ← takeWhile isOctal 1 with
      | [] => groupReference [c, d]
      | e :: _ =>
        let text := ['\\', c, d, e]
        if 0o377 < numberOf 8 [c, d, e] then reject (.octalTooLarge text) 4
        literal (numberOf 8 [c, d, e])
    else groupReference [c, d]

/-- An escape outside a set, with what it is to a repetition. -/
def escape (c : Char) : Reader (Node × ItemKind) := do
  let f ← flags
  if c = 'A' then return (.anchor .textStart, .place)
  if c = 'Z' then return (.anchor .textEnd, .place)
  if c = 'b' then return (.anchor (.wordEdge f.ascii), .place)
  if c = 'B' then return (.anchor (.noWordEdge f.ascii), .place)
  if let some (k, negated) := classOf? c then
    return (.char (.set false [.kind k negated] f.ascii f.folding), .other)
  if let some code := controlCode? c then return (← literal code, .other)
  if let some count := hexCount? c then return (← literal (← hexCode c count), .other)
  if c = 'N' then return (← literal (← namedCode), .other)
  if c = '0' then
    let ds ← takeWhile isOctal 2
    return (← literal (numberOf 8 ds), .other)
  if c.isDigit then return (← digitEscape c, .other)
  if c.isAlpha then reject (.badEscape ['\\', c]) 2
  return (← literal c.toNat, .other)

end Reader
end PasteRules.Regex
