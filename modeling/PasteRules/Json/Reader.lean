import PasteRules.Json.Value

/-! Reading JSON text. The special numbers `NaN`, `Infinity` and `-Infinity` are accepted, and a
name that comes twice keeps its first place and its last value. An error knows the text that was
left. -/
namespace PasteRules.Json

/-- What is wrong with a text. -/
inductive Flaw where
  | expectedValue
  | expectedName
  | expectedColon
  | expectedComma
  | unterminatedString
  | controlCharacter
  | badEscape
  | badUnicodeEscape
  | extraData
  | byteOrderMark
  deriving DecidableEq, Repr

def Flaw.message : Flaw → String
  | .expectedValue => "Expecting value"
  | .expectedName => "Expecting property name enclosed in double quotes"
  | .expectedColon => "Expecting ':' delimiter"
  | .expectedComma => "Expecting ',' delimiter"
  | .unterminatedString => "Unterminated string starting at"
  | .controlCharacter => "Invalid control character at"
  | .badEscape => "Invalid \\escape"
  | .badUnicodeEscape => "Invalid \\uXXXX escape"
  | .extraData => "Extra data"
  | .byteOrderMark => "Unexpected UTF-8 BOM (decode using utf-8-sig)"

/-- Why a text is not read: a flaw before the text that is left, or an integer of too many digits.
-/
inductive ReadError where
  | malformed (flaw : Flaw) (left : List Char)
  | integerTooLong
  deriving DecidableEq, Repr

def digitLimit : Nat := 4300

def isSpace (c : Char) : Bool := c == ' ' || c == '\t' || c == '\n' || c == '\r'

def skipSpace (cs : List Char) : List Char := cs.dropWhile isSpace

def hexValue? (c : Char) : Option Nat :=
  if '0' ≤ c ∧ c ≤ '9' then some (c.toNat - '0'.toNat)
  else if 'a' ≤ c ∧ c ≤ 'f' then some (c.toNat - 'a'.toNat + 10)
  else if 'A' ≤ c ∧ c ≤ 'F' then some (c.toNat - 'A'.toNat + 10)
  else none

def hexQuad? (a b c d : Char) : Option Nat := do
  let w ← hexValue? a
  let x ← hexValue? b
  let y ← hexValue? c
  let z ← hexValue? d
  return ((w * 16 + x) * 16 + y) * 16 + z

def shortEscape? (c : Char) : Option Char :=
  if c = '"' ∨ c = '\\' ∨ c = '/' then some c
  else if c = 'b' then some '\x08'
  else if c = 'f' then some '\x0c'
  else if c = 'n' then some '\n'
  else if c = 'r' then some '\r'
  else if c = 't' then some '\t'
  else none

/-- The character of a code point; a lone half of a pair becomes the replacement character. -/
def charOf (code : Nat) : Char := if code.isValidChar then Char.ofNat code else '\ufffd'

/-- Whether the number is the first half of a pair. -/
def isHighHalf (n : Nat) : Bool := 0xd800 ≤ n && n < 0xdc00

/-- Whether the number is the second half of a pair. -/
def isLowHalf (n : Nat) : Bool := 0xdc00 ≤ n && n < 0xe000

/-- Reads a string behind its opening quote; `start` is the text from that quote on. -/
def readString (start : List Char) : List Char → List Char → Except ReadError (String × List Char)
  | _, [] => .error (.malformed .unterminatedString start)
  | acc, '"' :: rest => .ok (String.ofList acc.reverse, rest)
  | acc, '\\' :: 'u' :: a :: b :: c :: d :: '\\' :: 'u' :: e :: f :: g :: h :: rest =>
    let here := 'u' :: a :: b :: c :: d :: '\\' :: 'u' :: e :: f :: g :: h :: rest
    match hexQuad? a b c d with
    | none => .error (.malformed .badUnicodeEscape here)
    | some high =>
      if isHighHalf high ∧ rest ≠ [] then
        match hexQuad? e f g h with
        | none => .error (.malformed .badUnicodeEscape (here.drop 6))
        | some low =>
          if isLowHalf low then
            let code := 0x10000 + (high - 0xd800) * 0x400 + (low - 0xdc00)
            readString start (charOf code :: acc) rest
          else readString start (charOf high :: acc) ('\\' :: 'u' :: e :: f :: g :: h :: rest)
      else readString start (charOf high :: acc) ('\\' :: 'u' :: e :: f :: g :: h :: rest)
  | acc, '\\' :: 'u' :: a :: b :: c :: d :: next :: rest =>
    match hexQuad? a b c d with
    | none => .error (.malformed .badUnicodeEscape ('u' :: a :: b :: c :: d :: next :: rest))
    | some n => readString start (charOf n :: acc) (next :: rest)
  | _, '\\' :: 'u' :: rest => .error (.malformed .badUnicodeEscape ('u' :: rest))
  | _, ['\\'] => .error (.malformed .unterminatedString start)
  | acc, '\\' :: c :: rest =>
    match shortEscape? c with
    | some x => readString start (x :: acc) rest
    | none => .error (.malformed .badEscape ('\\' :: c :: rest))
  | acc, c :: rest =>
    if c.toNat < 0x20 then .error (.malformed .controlCharacter (c :: rest))
    else readString start (c :: acc) rest
termination_by _ cs => cs.length

def digitsValue (ds : List Char) : Nat := ds.foldl (fun n c => n * 10 + (c.toNat - '0'.toNat)) 0

/-- The digits of an integer part: a zero stands alone. -/
def wholeDigits : List Char → List Char × List Char
  | '0' :: rest => (['0'], rest)
  | cs => (cs.takeWhile Char.isDigit, cs.dropWhile Char.isDigit)

/-- The digits behind a point; a point without digits is left. -/
def fractionDigits : List Char → List Char × List Char
  | '.' :: rest =>
    match rest.takeWhile Char.isDigit with
    | [] => ([], '.' :: rest)
    | ds => (ds, rest.dropWhile Char.isDigit)
  | cs => ([], cs)

/-- The exponent, its sign included; a mark without digits is left. -/
def exponentPart (cs : List Char) : Option Int × List Char :=
  match cs with
  | [] => (none, [])
  | e :: rest =>
    if e = 'e' ∨ e = 'E' then
      let (negative, digits) := match rest with
        | '-' :: r => (true, r)
        | '+' :: r => (false, r)
        | r => (false, r)
      match digits.takeWhile Char.isDigit with
      | [] => (none, e :: rest)
      | ds =>
        let n := digitsValue ds
        (some (if negative then -(n : Int) else n), digits.dropWhile Char.isDigit)
    else (none, e :: rest)

/-- Reads a number; `start` is the text it begins with, its sign included. -/
def readNumber (start : List Char) : Except ReadError (Json × List Char) :=
  let (negative, cs) := match start with
    | '-' :: rest => (true, rest)
    | cs => (false, cs)
  match wholeDigits cs with
  | ([], _) => .error (.malformed .expectedValue start)
  | (whole, afterWhole) =>
    let (fraction, afterFraction) := fractionDigits afterWhole
    let (exponent, rest) := exponentPart afterFraction
    if fraction.isEmpty && exponent.isNone then
      if digitLimit < whole.length then .error .integerTooLong
      else
        let n : Int := digitsValue whole
        .ok (.int (if negative then -n else n), rest)
    else
      let scale := exponent.getD 0 - fraction.length
      .ok (.real (.ofDecimal negative (digitsValue (whole ++ fraction)) scale), rest)

/-- The rest behind a word, if the text begins with it. -/
def afterWord? (word : String) (cs : List Char) : Option (List Char) :=
  if word.toList.isPrefixOf cs then some (cs.drop word.length) else none

def readWord (cs : List Char) : Option (Json × List Char) :=
  [("null", Json.null), ("true", .bool true), ("false", .bool false), ("NaN", .real .nan),
    ("Infinity", .real (.infinite false)), ("-Infinity", .real (.infinite true))].findSome?
    fun (word, v) => (afterWord? word cs).map (v, ·)

mutual
/-- Reads a value that begins at once. The first argument bounds the steps; one for each character
is enough. -/
def readValue : Nat → List Char → Except ReadError (Json × List Char)
  | 0, cs => .error (.malformed .expectedValue cs)
  | steps + 1, cs =>
    match cs with
    | '"' :: rest => do
      let (s, rest) ← readString cs [] rest
      .ok (.str s, rest)
    | '[' :: rest =>
      match skipSpace rest with
      | ']' :: rest => .ok (.arr [], rest)
      | rest => do
        let (items, rest) ← readItems steps rest
        .ok (.arr items, rest)
    | '\x7b' :: rest =>
      match skipSpace rest with
      | '\x7d' :: rest => .ok (.obj [], rest)
      | rest => do
        let (fields, rest) ← readFields steps rest
        .ok (.obj (overlay [] fields), rest)
    | _ =>
      match readWord cs with
      | some r => .ok r
      | none => readNumber cs

/-- Reads the items of an array up to its closing bracket. -/
def readItems : Nat → List Char → Except ReadError (List Json × List Char)
  | 0, cs => .error (.malformed .expectedValue cs)
  | steps + 1, cs => do
    let (v, rest) ← readValue steps cs
    match skipSpace rest with
    | ']' :: rest => .ok ([v], rest)
    | ',' :: rest => do
      let (items, rest) ← readItems steps (skipSpace rest)
      .ok (v :: items, rest)
    | rest => .error (.malformed .expectedComma rest)

/-- Reads the fields of an object up to its closing brace. -/
def readFields : Nat → List Char → Except ReadError (List (String × Json) × List Char)
  | 0, cs => .error (.malformed .expectedName cs)
  | steps + 1, cs => do
    match cs with
    | '"' :: rest => do
      let (name, rest) ← readString cs [] rest
      match skipSpace rest with
      | ':' :: rest => do
        let (v, rest) ← readValue steps (skipSpace rest)
        match skipSpace rest with
        | '\x7d' :: rest => .ok ([(name, v)], rest)
        | ',' :: rest => do
          let (fields, rest) ← readFields steps (skipSpace rest)
          .ok ((name, v) :: fields, rest)
        | rest => .error (.malformed .expectedComma rest)
      | rest => .error (.malformed .expectedColon rest)
    | _ => .error (.malformed .expectedName cs)
end

/-- Reads a whole text as one value, with white space around it. -/
def read (text : List Char) : Except ReadError Json :=
  match text with
  | '\ufeff' :: _ => .error (.malformed .byteOrderMark text)
  | _ => do
    let (v, rest) ← readValue (2 * text.length + 1) (skipSpace text)
    match skipSpace rest with
    | [] => .ok v
    | rest => .error (.malformed .extraData rest)

/-- The message for a flaw in a text: its wording, line, column and offset, all but the offset
counted from one. -/
def Flaw.report (flaw : Flaw) (text left : List Char) : String :=
  let before := text.take (text.length - left.length)
  let line := before.count '\n' + 1
  let column := (before.reverse.takeWhile (· != '\n')).length + 1
  s!"{flaw.message}: line {line} column {column} (char {before.length})"

end PasteRules.Json
