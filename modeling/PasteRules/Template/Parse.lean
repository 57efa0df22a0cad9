import PasteRules.Regex.Match
import PasteRules.Template.Basic

/-! Templates taken apart. Placeholders are found as the matches of a pattern, and what no reference
comes of stays in the text around it. -/
namespace PasteRules.Template

open Regex (Cursor Node)

/-- The pattern of a placeholder, which is read as a verbose one over the ASCII characters. -/
def placeholderPattern : String := "
        [$]
        (?:
            (?P<dollar> [$] )
                |
            (?P<whole_match> [&] )
                |
            (?P<before_match> [`] )
                |
            (?P<after_match> ['] )
                |
            (?P<group_digits> [0-9]\x7b1,2\x7d )
                |
            < (?P<group_name> [^>]* ) >
        )
    "

/-- A group of one character. -/
def symbol (number : Nat) (c : Char) : Node := .group number (.char (.literal c.toNat false .exact))

/-- The group of one or two digits. -/
def digitsNode : Node :=
  .group 5 (.loop .greedy 1 (some 2) (.char (.set false [.range '0'.toNat '9'.toNat] true .exact)))

/-- A name in angle brackets. -/
def nameNode : Node :=
  .ofList [.char (.literal '<'.toNat false .exact),
    .group 6 (.loop .greedy 0 none (.char (.literal '>'.toNat true .exact))),
    .char (.literal '>'.toNat false .exact)]

/-- What may stand behind the dollar sign of a placeholder. -/
def openings : Node :=
  .ofAlternatives (symbol 1 '$')
    [symbol 2 '&', symbol 3 '\x60', symbol 4 '\'', digitsNode, nameNode]

set_option maxRecDepth 4000 in
/-- The compiled pattern of a placeholder. -/
def placeholders : { r : Regex //
    (Regex.compile placeholderPattern { verbose := true, ascii := true }).toOption = some r } where
  val := {
    pattern := placeholderPattern
    groups := 6
    names := [("dollar", 1), ("whole_match", 2), ("before_match", 3), ("after_match", 4),
      ("group_digits", 5), ("group_name", 6)]
    root := .seq (.char (.literal '$'.toNat false .exact)) openings }
  property := by
    -- The kernel is slow to decode a literal, so the text is given as its characters.
    have htext : placeholderPattern = String.ofList _ := rfl
    rw [Regex.compile, htext, String.toList_ofList]
    decide +kernel

/-- The text of a named group, if the group took part in the match of a placeholder. -/
def found? (m : Regex.Match) (name : String) : Option (List Char) :=
  ((placeholders.val.names.lookup name).bind m.group?).join

/-- The parts that a placeholder stands for, if it refers to something that there is. -/
def placeholderParts? (groups : Nat) (names : List String) (m : Regex.Match) :
    Option (List Part) :=
  if (found? m "dollar").isSome then some [.literal ['$']]
  else if (found? m "whole_match").isSome then some [.whole]
  else if (found? m "before_match").isSome then some [.before]
  else if (found? m "after_match").isSome then some [.after]
  else
    match found? m "group_digits", found? m "group_name" with
    | some (first :: more), _ => resolveDigits groups first more.head?
    | none, some name =>
      let name := String.ofList name
      if names.contains name then some [.named name] else none
    | _, _ => none

/-- The parts of a template from a place on, given the placeholders behind it. Where one stands for
nothing, the text that is gathered goes on through it. -/
def stitch (groups : Nat) (names : List String) (start : Cursor) :
    List Regex.Match → List Part
  | [] => [.literal start.after]
  | m :: rest =>
    match placeholderParts? groups names m with
    | some parts => .literal (start.slice m.start) :: parts ++ stitch groups names m.finish rest
    | none => stitch groups names start rest

/-- The parts of a template, empty text left out. -/
def parse (groups : Nat) (names : List String) (template : List Char) : List Part :=
  let start := Cursor.ofText template
  (stitch groups names start (placeholders.val.matchesFrom start false)).filter Part.isSome

end PasteRules.Template
