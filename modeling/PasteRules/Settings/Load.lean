import PasteRules.Settings.Migration

/-! Loading saved settings: what was never saved comes from the built-in rules, and fragments that
nothing joins are joined by place. -/
namespace PasteRules.Settings

variable {σ : Type}

def builtInPatterns : List String := [
  "^https://github.com/[^/]+/([^/]+)/issues/(\\d+)$",
  "^https://github.com/[^/]+/([^/]+)/pull/(\\d+)$",
  "^https://github.com/[^/]+/([^/]+)$",
  "^https://\\w+.wikipedia.org/wiki/([^\\s]+)$"]

/-- The built-in replacers, each for the pattern at its place. -/
def builtInReplacers : List String := [
  "[🐈‍⬛🔨 $1#$2]($&)",
  "[🐈‍⬛🛠︎ $1#$2]($&)",
  "[🐈‍⬛ $1]($&)",
  "[📖 $1]($&)"]

/-- Settings that were never saved. -/
def builtIn : List (String × Json) :=
  [("patterns", .arr (builtInPatterns.map Json.str)),
    ("replacers", .arr (builtInReplacers.map Json.str)),
    ("active", .bool true), ("debugMode", .bool false)]

/-- Saved settings laid over the built-in ones. What is no object counts as never saved. -/
def overBuiltIn : Json → Json
  | .obj fields => .obj (Json.overlay builtIn fields)
  | _ => .obj builtIn

/-- Links by place for settings that have both kinds of fragments but no link. -/
def withDefaultLinks [IdSupply σ] (settings : Settings) (s : σ) : Settings × σ :=
  if !settings.links.isEmpty || settings.patterns.isEmpty || settings.replacers.isEmpty then
    (settings, s)
  else
    let (links, s) := alignedLinks settings.patterns settings.replacers [] [] s
    ({ settings with links }, s)

/-- The settings that saved ones stand for. -/
def load [IdSupply σ] (saved : Json) (s : σ) : Settings × σ :=
  let (settings, s) := migrate (overBuiltIn saved) s
  withDefaultLinks settings s

end PasteRules.Settings
