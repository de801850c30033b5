import ChipEight.Text.Characters
import ChipEight.Text.Display
import ChipEight.Text.Utf8

/-!
# The working directory

Files and folders, as the paths that a program is given find them. A path is followed part by part:
every part but the last has to lead to a folder, a single dot stays there, and two dots go to the
folder above.
-/

namespace ChipEight

open Text

inductive FileError where
  | notFound (path : List Char)
  | notDirectory (path : List Char)
  | isDirectory (path : List Char)
  | nameTooLong (path : List Char)
  | nullCharacter
  deriving DecidableEq, Repr

/-- The system's text for a failure, with its number and the path. -/
def systemText (number : Nat) (text : String) (path : List Char) : String :=
  s!"[Errno {number}] {text}: {String.ofList (quoted path)}"

def FileError.message : FileError → String
  | .notFound path => systemText 2 "No such file or directory" path
  | .notDirectory path => systemText 20 "Not a directory" path
  | .isDirectory path => systemText 21 "Is a directory" path
  | .nameTooLong path => systemText 36 "File name too long" path
  | .nullCharacter => "embedded null byte"

/-! ### Places -/

def samePart : List Char := ['.']

def upperPart : List Char := ['.', '.']

/-- A place in the tree of folders: the names that lead to it from the working directory or from the
root, the last one first. What lies above the working directory begins with parts that go up. -/
structure Place where
  fromRoot : Bool
  names : List (List Char)
  deriving DecidableEq, Repr

namespace Place

def here : Place := ⟨false, []⟩

def startOf (path : List Char) : Place := ⟨path.head? == some '/', []⟩

def child (p : Place) (name : List Char) : Place := { p with names := name :: p.names }

/-- The folder above. Nothing is above the root. -/
def parent (p : Place) : Place :=
  match p.names with
  | [] => if p.fromRoot then p else p.child upperPart
  | name :: rest => if name = upperPart then p.child upperPart else { p with names := rest }

def go (p : Place) (part : List Char) : Place :=
  if part = samePart then p else if part = upperPart then p.parent else p.child part

/-- The working directory, the root, or a folder above them. -/
def isBase (p : Place) : Bool := p.names.all (· == upperPart)

def text (p : Place) : List Char :=
  (if p.fromRoot then ['/'] else if p.names.isEmpty then samePart else []) ++
    ['/'].intercalate p.names.reverse

end Place

/-! ### Paths -/

def pathParts (path : List Char) : List (List Char) :=
  (path.splitOn '/').filter fun part => !part.isEmpty

/-- Whether a path ends in a separator, so that only a folder will do. -/
def asksForFolder (path : List Char) : Bool := path.getLast? == some '/'

def byteCount (text : List Char) : Nat := (String.ofList text).utf8ByteSize

def nameLimit : Nat := 255

def pathLimit : Nat := 4095

/-- What is wrong with a path whatever the directory holds. -/
def pathFault? (path : List Char) : Option FileError :=
  if path.contains '\x00' then some .nullCharacter
  else if path = [] then some (.notFound path)
  else if pathLimit < byteCount path then some (.nameTooLong path)
  else none

/-! ### Directories -/

/-- Files and folders by place. The places above all others are folders in any case. -/
structure Directory where
  files : List (Place × Array UInt8)
  folders : List Place
  deriving DecidableEq

inductive Item where
  | folder
  | file (bytes : Array UInt8)
  | nothing
  deriving DecidableEq

namespace Directory

def empty : Directory := ⟨[], []⟩

def ofFiles (files : List (List Char × Array UInt8)) : Directory :=
  ⟨files.map fun (name, bytes) => (Place.here.child name, bytes), []⟩

def find? (d : Directory) (p : Place) : Option (Array UInt8) :=
  (d.files.find? fun file => file.1 == p).map (·.2)

def item (d : Directory) (p : Place) : Item :=
  if p.isBase || d.folders.contains p then .folder
  else match d.find? p with
    | some bytes => .file bytes
    | none => .nothing

def advance (d : Directory) (path : List Char) (p : Place) (part : List Char) :
    Except FileError Place :=
  match d.item p with
  | .nothing => .error (.notFound path)
  | .file _ => .error (.notDirectory path)
  | .folder => if nameLimit < byteCount part then .error (.nameTooLong path) else .ok (p.go part)

def follow (d : Directory) (path : List Char) (parts : List (List Char)) : Except FileError Place :=
  parts.foldlM (d.advance path) (Place.startOf path)

def read (d : Directory) (path : List Char) : Except FileError (Array UInt8) :=
  match pathFault? path with
  | some fault => .error fault
  | none => do
    let p ← d.follow path (pathParts path ++ if asksForFolder path then [samePart] else [])
    match d.item p with
    | .folder => .error (.isDirectory path)
    | .file bytes => .ok bytes
    | .nothing => .error (.notFound path)

def insert (d : Directory) (p : Place) (bytes : Array UInt8) : Directory :=
  { d with files := d.files.filter (fun file => file.1 ≠ p) ++ [(p, bytes)] }

/-- Writes the file at `path`, over the one that is there. -/
def write (d : Directory) (path : List Char) (bytes : Array UInt8) : Except FileError Directory :=
  match pathFault? path with
  | some fault => .error fault
  | none =>
    if asksForFolder path then do
      let _ ← d.follow path ((pathParts path).dropLast ++ [samePart])
      .error (.isDirectory path)
    else do
      let p ← d.follow path (pathParts path)
      match d.item p with
      | .folder => .error (.isDirectory path)
      | .file _ | .nothing => .ok (d.insert p bytes)

end Directory

inductive TextFileError where
  | file (error : FileError)
  | encoding (error : Utf8.Error)
  deriving DecidableEq, Repr

/-- The text of a file in UTF-8, with line feeds for all line ends. -/
def Directory.readText (d : Directory) (path : List Char) : Except TextFileError (List Char) := do
  let bytes ← (d.read path).mapError .file
  let text ← (Utf8.decode bytes).mapError .encoding
  return normalizeNewlines text

end ChipEight
