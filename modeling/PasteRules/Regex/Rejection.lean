import PasteRules.Regex.Node
import PasteRules.Text.Quoted

/-! Why a pattern does not compile, and how that is put in words. -/
namespace PasteRules.Regex

/-- What is wrong with a pattern. -/
inductive Flaw where
  | badEscape (text : List Char)
  | badEscapeAtEnd
  | incompleteEscape (text : List Char)
  | octalTooLarge (text : List Char)
  | missingBrace
  | missingCharacterName
  | unknownCharacterName (name : String)
  | missingGroupName
  | unterminatedName (terminator : Char)
  | badGroupName (name : String)
  | repeatedGroupName (name : String) (number former : Nat)
  | unknownGroupName (name : String)
  | unknownGroup (number : Nat)
  | openGroup
  | groupOfSameLookbehind
  | groupZero
  | thirdBranch
  | unknownExtension (text : List Char)
  | endOfPattern
  | unterminatedSet
  | badRange (first last : List Char)
  | leastAboveMost
  | nothingToRepeat
  | repeatedRepeat
  | unterminatedGroup
  | unterminatedComment
  | unbalanced
  | missingFlag
  | unknownFlag
  | missingColon
  | missingFlagEnd
  | flagsNotAtStart
  | globalFlagOn
  | globalFlagOff
  | flagOnAndOff
  | alphabetFlagOff
  | alphabetFlagsClash
  | localeFlag
  | countTooLarge
  | lookbehindTooLong
  | lookbehindNotFixed
  | repeatInTemplate (greed : Greed)
  | nestedTooDeep
  deriving DecidableEq, Repr

def Greed.name : Greed → String
  | .greedy => "MAX_REPEAT"
  | .lazy => "MIN_REPEAT"
  | .possessive => "POSSESSIVE_REPEAT"

def Flaw.text : Flaw → String
  | .badEscape text => "bad escape " ++ String.ofList text
  | .badEscapeAtEnd => "bad escape (end of pattern)"
  | .incompleteEscape text => "incomplete escape " ++ String.ofList text
  | .octalTooLarge text => s!"octal escape value {String.ofList text} outside of range 0-0o377"
  | .missingBrace => "missing \x7b"
  | .missingCharacterName => "missing character name"
  | .unknownCharacterName name => "undefined character name " ++ Text.quoted name
  | .missingGroupName => "missing group name"
  | .unterminatedName terminator => s!"missing {terminator}, unterminated name"
  | .badGroupName name => "bad character in group name " ++ Text.quoted name
  | .repeatedGroupName name number former =>
    s!"redefinition of group name {Text.quoted name} as group {number}; was group {former}"
  | .unknownGroupName name => "unknown group name " ++ Text.quoted name
  | .unknownGroup number => s!"invalid group reference {number}"
  | .openGroup => "cannot refer to an open group"
  | .groupOfSameLookbehind => "cannot refer to group defined in the same lookbehind subpattern"
  | .groupZero => "bad group number"
  | .thirdBranch => "conditional backref with more than two branches"
  | .unknownExtension text => "unknown extension ?" ++ String.ofList text
  | .endOfPattern => "unexpected end of pattern"
  | .unterminatedSet => "unterminated character set"
  | .badRange first last => s!"bad character range {String.ofList first}-{String.ofList last}"
  | .leastAboveMost => "min repeat greater than max repeat"
  | .nothingToRepeat => "nothing to repeat"
  | .repeatedRepeat => "multiple repeat"
  | .unterminatedGroup => "missing ), unterminated subpattern"
  | .unterminatedComment => "missing ), unterminated comment"
  | .unbalanced => "unbalanced parenthesis"
  | .missingFlag => "missing flag"
  | .unknownFlag => "unknown flag"
  | .missingColon => "missing :"
  | .missingFlagEnd => "missing -, : or )"
  | .flagsNotAtStart => "global flags not at the start of the expression"
  | .globalFlagOn => "bad inline flags: cannot turn on global flag"
  | .globalFlagOff => "bad inline flags: cannot turn off global flag"
  | .flagOnAndOff => "bad inline flags: flag turned on and off"
  | .alphabetFlagOff => "bad inline flags: cannot turn off flags 'a', 'u' and 'L'"
  | .alphabetFlagsClash => "bad inline flags: flags 'a', 'u' and 'L' are incompatible"
  | .localeFlag => "bad inline flags: cannot use 'L' flag with a str pattern"
  | .countTooLarge => "the repetition number is too large"
  | .lookbehindTooLong => "looks too much behind"
  | .lookbehindNotFixed => "look-behind requires fixed-width pattern"
  | .repeatInTemplate greed => "internal: unsupported template operator " ++ greed.name
  | .nestedTooDeep => "maximum recursion depth exceeded"

/-- A flaw and its place in the pattern, if it has one. -/
structure Rejection where
  flaw : Flaw
  position : Option Nat
  deriving DecidableEq, Repr

/-- The wording with the place; a pattern of several lines is also given line and column, both
counted from one. -/
def Rejection.message (r : Rejection) (pattern : List Char) : String :=
  match r.position with
  | none => r.flaw.text
  | some pos =>
    let before := pattern.take pos
    let line := before.count '\n' + 1
    let column := (before.reverse.takeWhile (· != '\n')).length + 1
    let place := if pattern.contains '\n' then s!" (line {line}, column {column})" else ""
    s!"{r.flaw.text} at position {pos}{place}"

/-- How compiling fails: with a rejection to be reported, or at a point the reports do not cover. -/
inductive Failure where
  | rejected (r : Rejection)
  | alphabetsContradict
  | countHasTooManyDigits
  deriving DecidableEq, Repr

end PasteRules.Regex
