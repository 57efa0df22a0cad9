import PasteRules.Template.Parse

/-! What a template becomes for a match. -/
namespace PasteRules.Template

/-- The text of a part. There is none if the part refers to a group that the pattern does not have;
a group that took no part in the match has the empty text. -/
def Part.expand? (r : Regex) (m : Regex.Match) : Part → Option (List Char)
  | .literal text => some text
  | .group number => (m.group? number).map (·.getD [])
  | .named name => do
    let number ← r.names.lookup name
    (m.group? number).map (·.getD [])
  | .whole => some m.whole
  | .before => some m.before
  | .after => some m.after

def expand? (r : Regex) (parts : List Part) (m : Regex.Match) : Option (List Char) :=
  (parts.mapM (Part.expand? r m)).map List.flatten

def forRegex (r : Regex) (template : List Char) : List Part :=
  parse r.groups (r.names.map Prod.fst) template

/-- The replacement that a template for the pattern makes for a match. Its references are all to
groups of the pattern, so the texts are there. -/
def replacement (r : Regex) (parts : List Part) (m : Regex.Match) : List Char :=
  (expand? r parts m).getD []

end PasteRules.Template
