import Phrasebook.Number.Numeral
import Phrasebook.Regex.Pattern

/-!
# The progress of reading a pattern

A pattern is read from front to back. What is left of it, the flags that are set, and the groups that
were opened go along (`Progress`), and a reader (`Parse`) takes some of the characters or fails. This
module has the readers of single characters, of what is ignored, and of references to groups.
-/

namespace Phrasebook.Regex

/-- The flags that are set. -/
structure Flags where
  fold : Bool := false
  lines : Bool := false
  dotAll : Bool := false
  swapped : Bool := false
  extended : Bool := false

/-- Set or unset the flag of a letter. -/
def Flags.put? (f : Flags) (on : Bool) : Char → Option Flags
  | 'i' => some { f with fold := on }
  | 'm' => some { f with lines := on }
  | 's' => some { f with dotAll := on }
  | 'U' => some { f with swapped := on }
  | 'x' => some { f with extended := on }
  | 'u' => if on then some f else none
  | _ => none

/-- What is left of a pattern, and what was seen of it. -/
structure Progress where
  rest : List Char
  flags : Flags := {}
  /-- The groups opened so far. -/
  groups : Nat := 0
  /-- The named groups, the last one first. -/
  names : List (List Char × Nat) := []
  /-- Whether a group was referred to by number. -/
  numbered : Bool := false

/-- A reader of patterns; it fails where the pattern is malformed. -/
abbrev Parse := StateT Progress Option

namespace Parse

/-- What is left. -/
def rest : Parse (List Char) :=
  return (← get).rest

/-- Go on with other characters. -/
def goOn (cs : List Char) : Parse Unit :=
  modify fun p => { p with rest := cs }

/-- Take the next character. -/
def next : Parse Char := do
  match ← rest with
  | c :: cs =>
    goOn cs
    return c
  | [] => failure

/-- Take a character if it comes next. -/
def takes (c : Char) : Parse Bool := do
  match ← rest with
  | d :: cs =>
    if c = d then
      goOn cs
      return true
    else return false
  | [] => return false

/-- Take a character that must come next. -/
def expect (c : Char) : Parse Unit := do
  if ← takes c then return () else failure

/-- Take the characters that come next and pass a test. -/
def takeWhile (test : Char → Bool) : Parse (List Char) := do
  let cs ← rest
  goOn (cs.dropWhile test)
  return cs.takeWhile test

/-! ## What is ignored -/

/-- What is being ignored. -/
inductive Ignoring where
  | nothing
  | line
  | comment

/-- Whether a character is a blank that may be ignored. -/
def isGap (c : Char) : Bool :=
  c = ' ' || c = '\r' || c = '\n' || c = '\t'

/-- Leave out what is to be ignored. A comment ends with a parenthesis that has no backslash in front,
and must end. -/
def afterIgnored? (extended : Bool) : Ignoring → List Char → Option (List Char)
  | .comment, [] => none
  | .comment, ')' :: cs => afterIgnored? extended .nothing cs
  | .comment, '\\' :: _ :: cs => afterIgnored? extended .comment cs
  | .comment, _ :: cs => afterIgnored? extended .comment cs
  | .line, '\n' :: cs => afterIgnored? extended .nothing cs
  | .line, _ :: cs => afterIgnored? extended .line cs
  | .nothing, '(' :: '?' :: '#' :: cs => afterIgnored? extended .comment cs
  | .nothing, c :: cs =>
    if extended && c = '#' then afterIgnored? extended .line cs
    else if extended && isGap c then afterIgnored? extended .nothing cs
    else some (c :: cs)
  | _, [] => some []

/-- Skip what is to be ignored. -/
def skipIgnored : Parse Unit := do
  let p ← get
  match afterIgnored? p.flags.extended .nothing p.rest with
  | some cs => goOn cs
  | none => failure

/-- Take a closing parenthesis. -/
def expectClose : Parse Unit := do
  skipIgnored
  expect ')'

/-! ## Numbers and names -/

/-- The first number that is too large for a count. -/
def countLimit : Nat :=
  18446744073709551616

/-- A count, if one comes next; what is too large is none. -/
def count? : Parse (Option Nat) := do
  let cs ← rest
  let digits := cs.takeWhile Char.isDigit
  let n := Number.ofDigits digits
  if digits.isEmpty ∨ countLimit ≤ n then return none
  else
    goOn (cs.drop digits.length)
    return some n

/-- Refer to a group that was opened before. -/
def refer (index : Nat) : Parse Nat := do
  if 1 ≤ index ∧ index ≤ (← get).groups then return index else failure

/-- Refer to a group by its number. -/
def numberedReference : Parse Nat := do
  match ← count? with
  | some index =>
    modify fun p => { p with numbered := true }
    refer index
  | none => failure

/-- Whether a character may stand in the name of a group. -/
def isNameChar (c : Char) : Bool :=
  c = '_' || Unicode.Property.alphanumeric.has c

/-- A name that ends with a sign. -/
def nameBefore (closing : Char) : Parse (List Char) := do
  let name ← takeWhile isNameChar
  expect closing
  if name.isEmpty then failure else return name

/-- Refer to a group by its name, or else by the number that the name spells. -/
def namedReference (closing : Char) : Parse Nat := do
  let name ← nameBefore closing
  match (← get).names.lookup name with
  | some index => refer index
  | none => if name.all Char.isDigit then refer (Number.ofDigits name) else failure

/-- Refer to a group by name, by number, or by how many groups back it was opened. -/
def relativeReference (closing : Char) : Parse Nat := do
  if ← takes '-' then
    match ← count? with
    | some back =>
      expect closing
      refer ((← get).groups + 1 - back)
    | none => failure
  else namedReference closing

end Parse

end Phrasebook.Regex
