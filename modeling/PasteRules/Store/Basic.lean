import PasteRules.Fault
import PasteRules.Identifier

/-! Patterns, replacers and the links that join them. Patterns and replacers are reusable pieces of
text; a link joins one of each, may be switched off, and carries a comment. -/
namespace PasteRules

/-- A pattern or a replacer: a text under an identifier. -/
structure Fragment where
  id : String
  text : String
  deriving DecidableEq, Repr

/-- A link from a pattern to a replacer. The order of links is their precedence. -/
structure Link where
  id : String
  patternId : String
  replacerId : String
  enabled : Bool
  comment : String
  deriving DecidableEq, Repr

/-- The pieces and links of a configuration, the count of edits that can change its rules, and the
supply of identifiers. -/
structure Store (σ : Type) where
  patterns : List Fragment
  replacers : List Fragment
  links : List Link
  revision : Nat
  ids : σ
  deriving DecidableEq, Repr

namespace Fragment

def find? (fragments : List Fragment) (id : String) : Option Fragment :=
  fragments.find? (·.id == id)

/-- The text that links see under an identifier: where fragments share one, that of the last. -/
def textOf? (fragments : List Fragment) (id : String) : Option String :=
  (find? fragments.reverse id).map text

def has (fragments : List Fragment) (id : String) : Bool := fragments.any (·.id == id)

end Fragment

/-- Changes the first element that a test accepts. -/
def updateFirst {α : Type} (p : α → Bool) (f : α → α) : List α → List α
  | [] => []
  | x :: rest => if p x then f x :: rest else x :: updateFirst p f rest

namespace Link

def find? (links : List Link) (id : String) : Option Link := links.find? (·.id == id)

def joins (l : Link) (patternId replacerId : String) : Bool :=
  l.patternId == patternId && l.replacerId == replacerId

end Link

namespace Store

def empty {σ : Type} (ids : σ) : Store σ := ⟨[], [], [], 0, ids⟩

variable {σ : Type}

/-- Counts an edit that can change the rules. -/
def bump (s : Store σ) : Store σ := { s with revision := s.revision + 1 }

def getPattern (s : Store σ) (id : String) : Except Fault Fragment :=
  match Fragment.find? s.patterns id with
  | some p => .ok p
  | none => .error (.unrecognisedId id)

def getReplacer (s : Store σ) (id : String) : Except Fault Fragment :=
  match Fragment.find? s.replacers id with
  | some r => .ok r
  | none => .error (.unrecognisedId id)

def getLink (s : Store σ) (id : String) : Except Fault Link :=
  match Link.find? s.links id with
  | some l => .ok l
  | none => .error (.unrecognisedId id)

def findLink (s : Store σ) (patternId replacerId : String) : Option Link :=
  s.links.find? (·.joins patternId replacerId)

def resolves (s : Store σ) (l : Link) : Bool :=
  Fragment.has s.patterns l.patternId && Fragment.has s.replacers l.replacerId

/-- The links with a missing end. -/
def danglingLinks (s : Store σ) : List Link := s.links.filter (!s.resolves ·)

end Store
end PasteRules
