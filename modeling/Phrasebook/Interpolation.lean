import Phrasebook.Error
import Phrasebook.Placeholder
import Phrasebook.Value

/-!
# Interpolation

**Substitution.** Variables are put in one after another in the order of their names, each for every
placeholder of its name; a quantity is put in last, for the placeholder `quantity`.

**Completeness.** A text in which a placeholder is left over is refused, and the error lists what is
left over in order of appearance.
-/

namespace Phrasebook

namespace Text

/-- Replace every occurrence of `needle`, from left to right and without overlap, in a text of which
the first `skip` characters are done with. -/
def replaceFrom (needle replacement : List Char) (skip : Nat) : List Char → List Char
  | [] => []
  | c :: cs =>
    match skip with
    | k + 1 => replaceFrom needle replacement k cs
    | 0 =>
      if needle.isPrefixOf (c :: cs) then
        replacement ++ replaceFrom needle replacement (needle.length - 1) cs
      else c :: replaceFrom needle replacement 0 cs

/-- Replace every occurrence of `needle`, which is not empty. -/
def replaceAll (needle replacement cs : List Char) : List Char :=
  replaceFrom needle replacement 0 cs

end Text

namespace Interpolation

/-- The name under which a quantity is put in. -/
def quantityName : List Char :=
  "quantity".toList

/-- Put a value in for every placeholder of a name. -/
def put (cs name value : List Char) : List Char :=
  Text.replaceAll (Placeholder.ofName name) value cs

/-- Put variables in, then the quantity. -/
def fill (vars : Variables) (q : Option Quantity) (cs : List Char) : List Char :=
  let cs := vars.foldl (fun cs v => put cs v.1.toList v.2.text.toList) cs
  match q with
  | some q => put cs quantityName q.text.toList
  | none => cs

/-- Put variables and a quantity into a text. -/
def substitute (text : String) (vars : Variables) (q : Option Quantity) : String :=
  String.ofList (fill vars q text.toList)

/-- Put variables and a quantity into a text that belongs to a key, and refuse what is left over. -/
def complete (key : Option String) (text : String) (vars : Variables) (q : Option Quantity) :
    Except LookupError String :=
  let filled := substitute text vars q
  let left := Placeholder.find filled
  if left.isEmpty then .ok filled else .error (.missingVariable key left)

/-- Put variables and a quantity into a text, and refuse what is left over. -/
def interpolate (text : String) (vars : Variables) (q : Option Quantity) :
    Except LookupError String :=
  complete none text vars q

end Interpolation

end Phrasebook
