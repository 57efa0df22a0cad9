import PasteRules.CommandLine.Directory
import PasteRules.CommandLine.Usage
import PasteRules.Json.Reader
import PasteRules.Json.Writer
import PasteRules.Session.Step

/-! A run of the command, from its arguments and files to what it prints, writes and returns. -/
namespace PasteRules.CommandLine

/-- What a run has printed so far, and the files as it leaves them. -/
structure World (δ : Type) where
  stdout : String
  stderr : String
  files : δ
  deriving DecidableEq, Repr

/-- Why a run ends before its work is done. -/
inductive Stop where
  | exit (code : Nat)
  | fault (f : Fault)
  deriving DecidableEq, Repr

abbrev Job (δ : Type) := ExceptT Stop (StateM (World δ))

/-- The outcome of a run. -/
structure Outcome (δ : Type) where
  result : Except Fault Nat
  world : World δ

def successCode : Nat := 0

/-- The work could not be done, or a check found a bad link. -/
def failureCode : Nat := 1

def usageCode : Nat := 2

namespace Job

variable {δ : Type}

def out (s : String) : Job δ Unit := modify fun w => { w with stdout := w.stdout ++ s }

def err (line : String) : Job δ Unit :=
  modify fun w => { w with stderr := w.stderr ++ line ++ "\n" }

def exit {α : Type} (code : Nat) : Job δ α := throw (.exit code)

def fail {α : Type} (code : Nat) (line : String) : Job δ α := do
  err ("error: " ++ line)
  exit code

def marked (name : String) : String := "\x60" ++ name ++ "\x60"

/-- The saved settings, null if there is no such file. -/
def loadSettings [FileKeeper δ] (name : String) : Job δ Json := do
  if name.toList.contains '\x00' then throw (.fault .nullInFileName)
  match FileKeeper.read (← get).files name with
  | .missing => return .null
  | .unreadable => fail failureCode ("cannot read from " ++ marked name)
  | .text s =>
    let text := plainLines s.toList
    match Json.read text with
    | .ok v => return v
    | .error .integerTooLong => throw (.fault .integerHasTooManyDigits)
    | .error (.malformed flaw left) =>
      fail failureCode
        ("settings file " ++ marked name ++ " is not valid JSON: " ++ flaw.report text left)

def saveSettings [FileKeeper δ] (name : String) (settings : Json) : Job δ Unit := do
  match FileKeeper.write? (← get).files name settings.saved with
  | some files =>
    modify fun w => { w with files }
    err ("success: wrote to " ++ marked name)
  | none => fail failureCode ("cannot write to " ++ marked name)

/-- What a session does, with what it prints on the standard output. -/
def act {σ α : Type} (s : Session σ) (action : Session.Action σ α) : Job δ (α × Session σ) := do
  let (result, printed, s) := s.run action
  out printed
  match result with
  | .ok a => return (a, s)
  | .error f => throw (.fault f)

/-- Transforms texts, one after the other, and prints the results. -/
def transformAll {σ : Type} (s : Session σ) : List String → Job δ Unit
  | [] => return ()
  | t :: rest => do
    let (result, s) ← act s (Session.Action.transform (some t))
    out (result ++ "\n")
    transformAll s rest

def withoutFinalNewline (s : String) : String :=
  match s.toList.reverse with
  | '\n' :: rest => String.ofList rest.reverse
  | _ => s

def work [FileKeeper δ] {σ : Type} [IdSupply σ] (o : Options) (stdin : String) (ids : σ) :
    Job δ Unit := do
  if o.check && !o.texts.isEmpty then
    fail usageCode "option -c (or --check) cannot be used with positional argument"
  let name ← match o.settings with
    | some name => pure name
    | none => throw (.fault .noFileName)
  let s := Session.load (← loadSettings name) ids
  let s ← if o.migrate then do
      let (settings, s) ← act s Session.Action.save
      saveSettings name settings
      pure s
    else pure s
  let s := if o.verbose then { s with debug := true } else s
  if o.check then
    let (good, _) ← act s Session.Action.check
    if good then return () else exit failureCode
  if o.migrate && o.texts.isEmpty then return ()
  let input := withoutFinalNewline (String.ofList (plainLines stdin.toList))
  transformAll s (if o.texts.isEmpty then [input] else o.texts)

def respond [FileKeeper δ] {σ : Type} [IdSupply σ] (arguments : List String) (stdin : String)
    (ids : σ) : Job δ Unit :=
  match requestOf arguments with
  | .help => out helpText
  | .version => out versionText
  | .refuse e => do
    modify fun w => { w with stderr := w.stderr ++ e.report }
    exit usageCode
  | .work o => work o stdin ids

end Job

def run {σ δ : Type} [FileKeeper δ] [IdSupply σ] (arguments : List String) (stdin : String)
    (files : δ) (ids : σ) : Outcome δ :=
  let (result, world) := (ExceptT.run (Job.respond arguments stdin ids)).run ⟨"", "", files⟩
  match result with
  | .ok () => ⟨.ok successCode, world⟩
  | .error (.exit code) => ⟨.ok code, world⟩
  | .error (.fault f) => ⟨.error f, world⟩

end PasteRules.CommandLine
