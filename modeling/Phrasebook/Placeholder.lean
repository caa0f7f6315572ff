/-!
# Placeholders

A placeholder is two opening braces, a name of one or more characters other than a closing brace,
and two closing braces. The scan takes the leftmost placeholder, goes on behind it, and skips one
character wherever none starts.
-/

namespace Phrasebook

namespace Placeholder

/-- The placeholder of a name, as it stands in a text. -/
def ofName (name : List Char) : List Char :=
  '{' :: '{' :: (name ++ ['}', '}'])

/-- The name of the placeholder that a text starts with. -/
def start? : List Char → Option (List Char)
  | '{' :: '{' :: more =>
    let name := more.takeWhile (· ≠ '}')
    match more.dropWhile (· ≠ '}') with
    | '}' :: '}' :: _ => if name.isEmpty then none else some name
    | _ => none
  | _ => none

/-- The names of the placeholders in a text of which the first `skip` characters are done with. -/
def scan (skip : Nat) : List Char → List (List Char)
  | [] => []
  | c :: cs =>
    match skip with
    | k + 1 => scan k cs
    | 0 =>
      match start? (c :: cs) with
      | some name => name :: scan (name.length + 3) cs
      | none => scan 0 cs

/-- The placeholders of a text, from left to right. -/
def tokens (cs : List Char) : List (List Char) :=
  (scan 0 cs).map ofName

/-- The placeholders of a text, from left to right. -/
def find (text : String) : List String :=
  (tokens text.toList).map String.ofList

end Placeholder

end Phrasebook
