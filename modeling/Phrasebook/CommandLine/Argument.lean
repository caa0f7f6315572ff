/-!
# Arguments

An argument is the separator `--`, a long flag with an optional value, a cluster of short flags
behind one dash, or plain. A dash alone and the empty argument are plain.
-/

namespace Phrasebook.CommandLine

/-- An argument by its form. -/
inductive Argument where
  | separator
  | long (name : String) (value : Option String)
  | cluster (letters : List Char)
  | plain
  deriving DecidableEq, Repr

namespace Argument

/-- A long flag: its name and, behind an equals sign, its value. -/
def ofLong (cs : List Char) : Argument :=
  let name := String.ofList (cs.takeWhile (· ≠ '='))
  match cs.dropWhile (· ≠ '=') with
  | _ :: value => long name (some (String.ofList value))
  | [] => long name none

/-- The form of an argument. -/
def ofText (s : String) : Argument :=
  match s.toList with
  | ['-', '-'] => separator
  | '-' :: '-' :: rest => ofLong rest
  | '-' :: c :: rest => cluster (c :: rest)
  | _ => plain

/-- Whether an exponent, if there is one, has digits and nothing else. -/
def isExponent : List Char → Bool
  | [] => true
  | 'e' :: ds => !ds.isEmpty && ds.all Char.isDigit
  | _ => false

/-- Whether letters behind a dash are those of a negative number: digits with an optional point and
exponent. -/
def isNumber (cs : List Char) : Bool :=
  let rest := cs.dropWhile Char.isDigit
  rest.length < cs.length &&
    match rest with
    | '.' :: rest => isExponent (rest.dropWhile Char.isDigit)
    | rest => isExponent rest

end Argument

end Phrasebook.CommandLine
