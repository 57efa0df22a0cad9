import PasteRules.Rules.Basic

/-! Transforming text: the first rule that applies anywhere is carried out at all its matches, and
no other rule is. -/
namespace PasteRules.Rule

/-- The first rule that applies to a text. -/
def winner? (rules : List Rule) (text : String) : Option Rule := rules.find? (·.applies text)

/-- The transformed text. No text becomes the empty text, which stays. -/
def transform (rules : List Rule) (text : Option String) : String :=
  match text with
  | none => ""
  | some t =>
    if t = "" then ""
    else
      match winner? rules t with
      | some r => r.apply t
      | none => t

end PasteRules.Rule
