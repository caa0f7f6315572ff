import Phrasebook.Text.Dotted

/-!
# Paths

A path is a row of names with slashes between them. Empty names and single dots stay in place.
-/

namespace Phrasebook.Path

/-- The names of a path that do not stay in place. -/
def names (path : String) : List String :=
  (Text.splitAt '/' path).filter fun name => name ≠ "" ∧ name ≠ "."

/-- A file name without its extension, which begins at the last dot. A dot at the start begins no
extension. -/
def withoutExtension (name : String) : String :=
  let parts := Text.splitAt '.' name
  let stem := Text.dotted parts.dropLast
  if stem.isEmpty then name else stem

/-- The name of the file at a path, without its extension; empty if the path leads to no file. -/
def stem (path : String) : String :=
  match (names path).getLast? with
  | none | some ".." => ""
  | some name => withoutExtension name

/-- The folder in which the last name of a path stands. -/
def folder (path : String) : String :=
  match path.toList.reverse.dropWhile (· ≠ '/') with
  | ['/'] => "/"
  | reversed => String.ofList (reversed.drop 1).reverse

/-- A path seen from a folder. A path that starts at the root does not depend on the folder. -/
def join (folder path : String) : String :=
  if path.startsWith "/" ∨ folder = "" then path
  else if folder.endsWith "/" then folder ++ path
  else folder ++ "/" ++ path

end Phrasebook.Path
