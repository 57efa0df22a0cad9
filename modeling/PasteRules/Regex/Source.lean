import PasteRules.Regex.Rejection

/-! A pattern as a sequence of symbols, where a backslash and the character after it are one. -/
namespace PasteRules.Regex

/-- A character, or a backslash with the character it escapes. -/
inductive Symbol where
  | plain (c : Char)
  | escaped (c : Char)
  deriving DecidableEq, Repr

def Symbol.chars : Symbol → List Char
  | .plain c => [c]
  | .escaped c => ['\\', c]

def Symbol.width (s : Symbol) : Nat := s.chars.length

/-- The symbols of a text, and whether a lone backslash ends it. -/
def symbolsOf : List Char → List Symbol × Bool
  | [] => ([], false)
  | ['\\'] => ([], true)
  | '\\' :: c :: rest =>
    let (symbols, dangling) := symbolsOf rest
    (.escaped c :: symbols, dangling)
  | c :: rest =>
    let (symbols, dangling) := symbolsOf rest
    (.plain c :: symbols, dangling)

/-- What is left of a pattern: the symbols to come, their position, and whether a lone backslash
comes after them. -/
structure Source where
  symbols : List Symbol
  position : Nat
  dangling : Bool
  deriving DecidableEq, Repr

namespace Source

def next? (s : Source) : Option Symbol := s.symbols.head?

/-- Refuses a source of which only a lone backslash is left: it is noticed as soon as it comes next.
-/
def checked (s : Source) : Except Failure Source :=
  if s.symbols.isEmpty && s.dangling then
    .error (.rejected ⟨.badEscapeAtEnd, some s.position⟩)
  else .ok s

def ofPattern (pattern : List Char) : Except Failure Source :=
  let (symbols, dangling) := symbolsOf pattern
  checked ⟨symbols, 0, dangling⟩

/-- The source behind its next symbol; the end stays the end. -/
def advance (s : Source) : Except Failure Source :=
  match s.symbols with
  | [] => .ok s
  | x :: rest => checked ⟨rest, s.position + x.width, s.dangling⟩

/-- A rejection some characters before the next symbol. -/
def reject {α : Type} (s : Source) (flaw : Flaw) (back : Nat) : Except Failure α :=
  .error (.rejected ⟨flaw, some (s.position - back)⟩)

end Source
end PasteRules.Regex
