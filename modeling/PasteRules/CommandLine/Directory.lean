/-! Files and folders as the command sees them from the place where it runs. -/
namespace PasteRules.CommandLine

/-- The outcome of opening a file to read it: its text, no such file, or no text to be had. -/
inductive Reading where
  | text (s : String)
  | missing
  | unreadable
  deriving DecidableEq, Repr

/-- A place that keeps files. Writing gives the place afterwards, if the file can be opened. -/
class FileKeeper (δ : Type) where
  read : δ → String → Reading
  write? : δ → String → String → Option δ

/-- What a file holds: text, or bytes that are no text. -/
inductive Content where
  | text (s : String)
  | bytes (bs : List UInt8)
  deriving DecidableEq, Repr

/-- The files and folders of a directory, by their paths in it. -/
structure Directory where
  files : List (String × Content)
  folders : List String
  deriving DecidableEq, Repr

/-- Where a file name leads. -/
inductive Place where
  | file (path : String) (content : Content)
  | free (path : String)
  | folder
  | nowhere
  | blocked
  deriving DecidableEq, Repr

def pathParts (name : List Char) : List (List Char) :=
  name.foldr (fun c parts =>
    if c = '/' then [] :: parts
    else
      match parts with
      | part :: rest => (c :: part) :: rest
      | [] => [[c]]) [[]]

def partLimit : Nat := 255

def pathLimit : Nat := 4095

/-- Parts that lead nowhere else. -/
def staysHere (part : List Char) : Bool := part.isEmpty || part == ['.']

namespace Directory

/-- The path of a part inside a folder; the directory itself has the empty path. -/
def join (folder : List String) (part : String) : String := "/".intercalate (folder ++ [part])

/-- Whether a path is that of a folder: one that is listed, or one with something in it. -/
def hasFolder (d : Directory) (path : String) : Bool :=
  d.folders.contains path ||
    (d.folders ++ d.files.map Prod.fst).any fun inner => (path ++ "/").isPrefixOf inner

/-- Follows the parts of a path from a folder, which is given by the parts that lead to it. -/
def follow (d : Directory) (folder : List String) : List (List Char) → Place
  | [] => .folder
  | part :: rest =>
    if staysHere part then d.follow folder rest
    else if part = ['.', '.'] then
      match folder.reverse with
      | [] => .nowhere
      | _ :: up => d.follow up.reverse rest
    else
      let name := String.ofList part
      let path := join folder name
      if partLimit < name.utf8ByteSize then .blocked
      else if d.hasFolder path then d.follow (folder ++ [name]) rest
      else
        match d.files.lookup path, rest with
        | some content, [] => .file path content
        | some _, _ => .blocked
        | none, [] => .free path
        | none, _ => .nowhere

/-- Where a file name leads. The directory does not know where it lies itself, so names that lead
out of it, absolute ones among them, lead nowhere. -/
def find (d : Directory) (name : String) : Place :=
  if pathLimit < name.utf8ByteSize then .blocked
  else
    match name.toList with
    | [] => .nowhere
    | '/' :: rest => if (pathParts rest).all staysHere then .folder else .nowhere
    | cs => d.follow [] (pathParts cs)

def put (d : Directory) (path : String) (s : String) : Directory :=
  if (d.files.lookup path).isSome then
    { d with files := d.files.map fun f => if f.1 = path then (path, .text s) else f }
  else { d with files := d.files ++ [(path, .text s)] }

end Directory

def Directory.read (d : Directory) (name : String) : Reading :=
  match d.find name with
  | .file _ (.text s) => .text s
  | .free _ | .nowhere => .missing
  | _ => .unreadable

def Directory.write? (d : Directory) (name text : String) : Option Directory :=
  match d.find name with
  | .file path _ | .free path => some (d.put path text)
  | _ => none

instance : FileKeeper Directory := ⟨Directory.read, Directory.write?⟩

/-- Text with each line end as a single line feed. -/
def plainLines : List Char → List Char
  | [] => []
  | '\r' :: '\n' :: rest => '\n' :: plainLines rest
  | '\r' :: rest => '\n' :: plainLines rest
  | c :: rest => c :: plainLines rest

end PasteRules.CommandLine
