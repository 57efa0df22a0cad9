import PasteRules.CommandLine.Run

/-! The command itself: its arguments, its input and its one file are read, and what a run leaves is
printed and written. -/
namespace PasteRules.CommandLine

/-- The one file that a run may touch: what reading it gave, whether it can be written, and what has
been written. -/
structure OneFile where
  reading : Reading
  writable : Bool
  written : Option String

instance : FileKeeper OneFile where
  read f _ := f.reading
  write? f _ text := if f.writable then some { f with written := some text } else none

def readFile (name : String) : IO Reading := do
  try
    let bytes ← IO.FS.readBinFile name
    return match String.fromUTF8? bytes with
      | some s => .text s
      | none => .unreadable
  catch
    | .noFileOrDirectory .. => return .missing
    | _ => return .unreadable

/-- Writes the settings file; the answer is whether it could be written. -/
def writeFile (name text : String) : IO Bool := do
  try
    IO.FS.writeFile name text
    return true
  catch _ => return false

/-- The name of the settings file, if the arguments get as far as asking for it. -/
def settingsName (arguments : List String) : Option String :=
  match requestOf arguments with
  | .work o => o.settings
  | _ => none

/-- Whether the arguments leave the text to the standard input. -/
def readsInput (arguments : List String) : Bool :=
  match requestOf arguments with
  | .work o => o.texts.isEmpty && !o.check && !o.migrate
  | _ => false

/-- Prints what a run has printed. Where a fault ended it, its exit code is 1. -/
def finish (outcome : Outcome OneFile) : IO UInt32 := do
  IO.print outcome.world.stdout
  IO.eprint outcome.world.stderr
  match outcome.result with
  | .ok code => return code.toUInt32
  | .error _ =>
    IO.eprintln "error: the request cannot be carried out"
    return 1

end PasteRules.CommandLine

open PasteRules CommandLine in
/-- Runs the command with identifiers that count up from a random start. -/
def main (arguments : List String) : IO UInt32 := do
  let ids : Tokens := ⟨← IO.rand 0 (Nat.pow 2 128)⟩
  let name := settingsName arguments
  let reading ← match name with
    | some n => readFile n
    | none => pure .missing
  let stdin ← if readsInput arguments then (← IO.getStdin).readToEnd else pure ""
  let outcome := run arguments stdin (OneFile.mk reading true none) ids
  match name, outcome.world.files.written with
  | some n, some text =>
    if ← writeFile n text then finish outcome
    else finish (run arguments stdin (OneFile.mk reading false none) ids)
  | _, _ => finish outcome
