import PasteRules.Text.Quoted
import PasteRules.Unicode.Digit

/-! The arguments of the command: options by short and long names, and the texts. Long names may be
cut short where that leaves one choice, short ones may be joined, and everything behind `--` is a
text.

Releases of the parser that the command relies on disagree in two corners, and the earlier of them
are followed (those before 3.11.9 and 3.12.3). A `--` that is joined to an option as its value, as
in `--settings=--`, is taken for the mark and leaves no value; later it is the value. An equals sign
behind joined short names, as in `-mxs=`, belongs to the value; later it only sets the value off. -/
namespace PasteRules.CommandLine

/-- The options. -/
inductive Flag where
  | help
  | version
  | settings
  | migrate
  | check
  | verbose
  deriving DecidableEq, Repr

namespace Flag

def letter : Flag → Char
  | .help => 'h'
  | .version => 'v'
  | .settings => 's'
  | .migrate => 'm'
  | .check => 'c'
  | .verbose => 'x'

def longName : Flag → String
  | .help => "--help"
  | .version => "--version"
  | .settings => "--settings"
  | .migrate => "--migrate"
  | .check => "--check"
  | .verbose => "--verbose"

def shortName (f : Flag) : String := String.ofList ['-', f.letter]

def all : List Flag := [.help, .version, .settings, .migrate, .check, .verbose]

def names : List (String × Flag) := all.flatMap fun f => [(f.shortName, f), (f.longName, f)]

def ofLetter? (c : Char) : Option Flag := all.find? (·.letter == c)

def takesValue : Flag → Bool
  | .settings => true
  | _ => false

end Flag

/-- What is wrong with arguments. -/
inductive UsageError where
  | missingValue (flag : Flag)
  | unwantedValue (flag : Flag) (value : String)
  | ambiguous (argument : String) (names : List String)
  | unrecognized (arguments : List String)
  deriving DecidableEq, Repr

namespace UsageError

def nameOf (f : Flag) : String := "argument " ++ f.shortName ++ "/" ++ f.longName ++ ": "

def message : UsageError → String
  | .missingValue f => nameOf f ++ "expected one argument"
  | .unwantedValue f value => nameOf f ++ "ignored explicit argument " ++ Text.quoted value
  | .ambiguous argument names =>
    "ambiguous option: " ++ argument ++ " could match " ++ ", ".intercalate names
  | .unrecognized arguments => "unrecognized arguments: " ++ " ".intercalate arguments

end UsageError

/-- What an argument looks like: a text, the mark behind which all are texts, or an option, known or
not, with the value joined to it. -/
inductive Shape where
  | text
  | separator
  | option (flag : Option Flag) (isShort : Bool) (value : Option (List Char))
  deriving DecidableEq, Repr

/-- Whether the argument is a negative number, which no option looks like. -/
def isNegativeNumber : List Char → Bool
  | '-' :: rest =>
    let body := match rest.reverse with
      | '\n' :: r => r.reverse
      | _ => rest
    let whole := body.takeWhile Unicode.isDigit
    match body.dropWhile Unicode.isDigit with
    | [] => !whole.isEmpty
    | '.' :: fraction => !fraction.isEmpty && fraction.all Unicode.isDigit
    | _ => false
  | _ => false

/-- The known options that an argument may stand for, with the name it stands for. A long name may
be cut short; a short one may have the rest of the argument joined to it. -/
def candidates (argument : List Char) : List (String × Shape) :=
  match argument with
  | '-' :: '-' :: _ =>
    let front := argument.takeWhile (· != '=')
    let value := match argument.dropWhile (· != '=') with
      | _ :: v => some v
      | [] => none
    (Flag.names.filter fun (name, _) => front.isPrefixOf name.toList).map
      fun (name, flag) => (name, .option (some flag) false value)
  | '-' :: c :: rest =>
    match Flag.ofLetter? c with
    | some flag => [(flag.shortName, .option (some flag) true (some rest))]
    | none => []
  | _ => []

/-- The shape of an argument that comes before any separator. -/
def shapeOf (argument : String) : Except UsageError Shape :=
  let cs := argument.toList
  let front := cs.takeWhile (· != '=')
  match cs with
  | '-' :: _ :: _ =>
    match Flag.names.lookup argument with
    | some flag => .ok (.option (some flag) (argument == flag.shortName) none)
    | none =>
      match cs.dropWhile (· != '='), Flag.names.lookup (String.ofList front) with
      | _ :: value, some flag =>
        .ok (.option (some flag) (String.ofList front == flag.shortName) (some value))
      | _, _ =>
        match candidates cs with
        | [(_, shape)] => .ok shape
        | [] =>
          if isNegativeNumber cs || cs.contains ' ' then .ok .text
          else .ok (.option none false none)
        | found => .error (.ambiguous argument (found.map Prod.fst))
  | _ => .ok .text

def shapes : List String → Except UsageError (List (String × Shape))
  | [] => .ok []
  | a :: rest =>
    if a = "--" then .ok ((a, .separator) :: rest.map (·, .text))
    else do
      let shape ← shapeOf a
      return (a, shape) :: (← shapes rest)

/-- What the arguments ask for. There is no name of the settings file where a lone separator was
given as its value. -/
structure Options where
  settings : Option String := some "pastetransform.json"
  migrate : Bool := false
  check : Bool := false
  verbose : Bool := false
  texts : List String := []
  deriving DecidableEq, Repr

/-- What comes of the arguments: help, the version, a complaint, or work to do. -/
inductive Request where
  | help
  | version
  | refuse (e : UsageError)
  | work (o : Options)
  deriving DecidableEq, Repr

/-- An option whose value is not joined to it, and the arguments behind it. -/
def takeValue (flag : Flag) (rest : List (String × Shape)) :
    Except UsageError (List (Flag × String) × List (String × Shape)) :=
  if flag.takesValue then
    match rest with
    | (value, .text) :: rest => .ok ([(flag, value)], rest)
    | _ => .error (.missingValue flag)
  else .ok ([(flag, "")], rest)

/-- An option with something joined to it: its value, or behind a short name more short names. -/
def takeJoined (flag : Flag) (isShort : Bool) (rest : List (String × Shape)) :
    List Char → Except UsageError (List (Flag × String) × List (String × Shape))
  | [] =>
    if flag.takesValue then .ok ([(flag, "")], rest) else .error (.unwantedValue flag "")
  | c :: more =>
    let joined := String.ofList (c :: more)
    if flag.takesValue then .ok ([(flag, joined)], rest)
    else if !isShort then .error (.unwantedValue flag joined)
    else
      match Flag.ofLetter? c with
      | none => .error (.unwantedValue flag joined)
      | some next => do
        let (found, rest) ←
          if more.isEmpty then takeValue next rest else takeJoined next true rest more
        return ((flag, "") :: found, rest)

/-- The options with one more carried out, or the request that ends the reading. -/
def Options.carryOut (o : Options) : Flag × String → Except Request Options
  | (.help, _) => .error .help
  | (.version, _) => .error .version
  | (.settings, value) => .ok { o with settings := if value = "--" then none else some value }
  | (.migrate, _) => .ok { o with migrate := true }
  | (.check, _) => .ok { o with check := true }
  | (.verbose, _) => .ok { o with verbose := true }

/-- The state of reading arguments: the options so far, whether the texts have been met, and what
nothing was made of. -/
structure Progress where
  options : Options := {}
  hasTexts : Bool := false
  extras : List String := []
  deriving DecidableEq, Repr

/-- A run of texts. Only the first run counts; in it the separator is dropped. -/
def Progress.addTexts (p : Progress) (texts : List String) : Progress :=
  if p.hasTexts then { p with extras := p.extras ++ texts }
  else { p with hasTexts := true, options := { p.options with texts := texts.erase "--" } }

def isText (a : String × Shape) : Bool :=
  match a.2 with
  | .option _ _ _ => false
  | _ => true

/-- Reads the arguments in order. The number bounds the steps, one for each argument and one more.
-/
def progress (p : Progress) (args : List (String × Shape)) : Nat → Except Request Progress
  | 0 => .ok p
  | n + 1 =>
    match args with
    | [] => .ok (if p.hasTexts then p else p.addTexts [])
    | (a, .option flag isShort value) :: rest =>
      match flag with
      | none => progress { p with extras := p.extras ++ [a] } rest n
      | some flag => do
        let taken := match value with
          | none => takeValue flag rest
          | some value => takeJoined flag isShort rest value
        match taken with
        | .error e => .error (.refuse e)
        | .ok (found, rest) =>
          let options ← found.foldlM Options.carryOut p.options
          progress { p with options } rest n
    | args => progress (p.addTexts ((args.takeWhile isText).map Prod.fst)) (args.dropWhile isText) n

def requestOf (arguments : List String) : Request :=
  match shapes arguments with
  | .error e => .refuse e
  | .ok args =>
    match progress {} args (args.length + 1) with
    | .error r => r
    | .ok p => if p.extras.isEmpty then .work p.options else .refuse (.unrecognized p.extras)

end PasteRules.CommandLine
