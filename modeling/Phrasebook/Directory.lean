import Phrasebook.Dict
import Phrasebook.Text.Dotted

/-!
# Directories

A directory holds files and folders under their paths from its root. Reading a path gives the text
of a file, or the reason why there is none. `Files` is all that a reader of files depends on: what
reading a path gives, and whether something is there.
-/

namespace Phrasebook

/-- Why a path has no text. -/
inductive FileError where
  | notFound
  | isFolder
  | notFolder
  | notText
  deriving DecidableEq, Repr

/-- The wording of a file error. -/
def FileError.message : FileError → String
  | notFound => "No such file or directory (os error 2)"
  | isFolder => "Is a directory (os error 21)"
  | notFolder => "Not a directory (os error 20)"
  | notText => "stream did not contain valid UTF-8"

/-- What can be read: the text under a path, and whether a path leads anywhere. -/
structure Files where
  read : String → Except FileError String
  has : String → Bool

/-- What stands under a path of a directory. -/
inductive Directory.Node where
  | file (bytes : ByteArray)
  | folder

/-- Files and folders under their paths, the names joined by slashes. -/
abbrev Directory := Dict String Directory.Node

namespace Directory

/-- The path of names from the root. -/
def pathOf (names : List String) : String :=
  "/".intercalate names

/-- What names lead to from a folder outside: around the directory nothing but folders is known, and
those only by dots. -/
def outside (names : List String) : Except FileError Node :=
  if names.all fun name => name = "" ∨ name = "." ∨ name = ".." then .ok .folder
  else .error .notFound

/-- Follow the names of a path from the folder `place`, which is given by its own names. An empty
name and a dot stay in a folder; two dots go to the folder above, from the root to one outside. -/
def follow (dir : Directory) (place : List String) : List String → Except FileError Node
  | [] => .ok .folder
  | name :: more =>
    if name = "" ∨ name = "." then follow dir place more
    else if name = ".." then
      if place.isEmpty then outside more else follow dir place.dropLast more
    else
      match dir.get? (pathOf (place ++ [name])) with
      | none => .error .notFound
      | some .folder => follow dir (place ++ [name]) more
      | some (.file bytes) => if more.isEmpty then .ok (.file bytes) else .error .notFolder

/-- What a path leads to. The empty path leads nowhere, and one that begins with a slash leads
outside. -/
def node (dir : Directory) (path : String) : Except FileError Node :=
  if path = "" then .error .notFound
  else
    match Text.splitAt '/' path with
    | "" :: rest => outside rest
    | names => dir.follow [] names

/-- The text of the file under a path. -/
def read (dir : Directory) (path : String) : Except FileError String := do
  match ← dir.node path with
  | .folder => .error .isFolder
  | .file bytes =>
    match String.fromUTF8? bytes with
    | some text => .ok text
    | none => .error .notText

/-- A directory as something to read from. -/
def files (dir : Directory) : Files where
  read := dir.read
  has path := (dir.node path).isOk

/-- The names of a path from the root, without those that stay in place; two dots take the name
before them away. -/
def namesOf (path : String) : List String :=
  (Text.splitAt '/' path).foldl
    (fun names name =>
      if name = "" ∨ name = "." then names
      else if name = ".." then names.dropLast
      else names ++ [name])
    []

/-- Make a folder and those it stands in. Where one of them is a file, what is missing above it is
made and nothing else. -/
def makeFolder (dir : Directory) (path : String) : Directory :=
  make dir [] (namesOf path)
where
  /-- Make the folders of a path from the folder `place`. -/
  make (dir : Directory) (place : List String) : List String → Directory
    | [] => dir
    | name :: more =>
      let path := pathOf (place ++ [name])
      match dir.get? path with
      | none => make (dir.insert path .folder) (place ++ [name]) more
      | some .folder => make dir (place ++ [name]) more
      | some (.file _) => dir

/-- Whether the folder of some names is there. -/
def hasFolder (dir : Directory) (names : List String) : Bool :=
  names.isEmpty ||
    match dir.get? (pathOf names) with
    | some .folder => true
    | _ => false

/-- Write a file, and make the folders it stands in. Nothing is written in the place of a folder or
below a file. -/
def write (dir : Directory) (path : String) (bytes : ByteArray) : Directory :=
  let names := namesOf path
  let dir := dir.makeFolder (pathOf names.dropLast)
  if !dir.hasFolder names.dropLast || dir.hasFolder names then dir
  else dir.insert (pathOf names) (.file bytes)

/-- Delete the file under a path. A folder stays. -/
def delete (dir : Directory) (path : String) : Directory :=
  match dir.get? (pathOf (namesOf path)) with
  | some (.file _) => dir.erase (pathOf (namesOf path))
  | _ => dir

end Directory

end Phrasebook
