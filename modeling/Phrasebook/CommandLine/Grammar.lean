import Phrasebook.CommandLine.Argument

/-!
# Grammars of arguments

A grammar says what each flag does to the options of a command, what plain arguments mean, and what
must be given. Arguments are read from left to right, and the first thing that is wrong, or a flag
that asks for help, ends the reading.

**Flags.** A switch stands alone. A flag with a value takes it from behind an equals sign, from the
rest of its cluster, or from the next argument, which must not look like a flag; a negative number
passes where numbers are expected. A flag may be given again only if it repeats.
-/

namespace Phrasebook.CommandLine

/-- Why arguments are refused. -/
inductive Misuse where
  | unknownFlag (argument : String)
  | unexpected (argument : String)
  | noValueTaken (flag : String)
  | valueMissing (flag : String)
  | valueRefused (flag value : String)
  | repeated (flag : String)
  | missing (flag : String)
  | noCommand
  | unknownCommand (name : String)
  deriving DecidableEq, Repr

/-- The wording of a misuse. -/
def Misuse.message : Misuse → String
  | unknownFlag argument => "unexpected argument '" ++ argument ++ "' found"
  | unexpected argument => "unexpected argument '" ++ argument ++ "' found"
  | noValueTaken flag => "no value is taken by '" ++ flag ++ "'"
  | valueMissing flag => "a value is required for '" ++ flag ++ "' but none was supplied"
  | valueRefused flag value => "invalid value '" ++ value ++ "' for '" ++ flag ++ "'"
  | repeated flag => "the argument '" ++ flag ++ "' cannot be used multiple times"
  | missing flag => "the required argument '" ++ flag ++ "' was not provided"
  | noCommand => "a subcommand is required but one was not provided"
  | unknownCommand name => "unrecognized subcommand '" ++ name ++ "'"

/-- Why reading ends before the last argument. -/
inductive Halt where
  | help
  | version
  | misuse (m : Misuse)
  deriving DecidableEq, Repr

/-- How a value changes the options of a command. -/
structure Valued (σ : Type) where
  /-- The options with the value, unless it is refused. -/
  read : String → σ → Option σ
  /-- Whether a second value may be given. -/
  repeats : Bool := false
  /-- Whether negative numbers are values. -/
  numeric : Bool := false

/-- What a flag does. -/
inductive Effect (σ : Type) where
  | halt (h : Halt)
  | switch (apply : σ → σ)
  | value (v : Valued σ)

/-- A flag by its names. -/
structure Flag (σ : Type) where
  long : String
  short : Option Char := none
  effect : Effect σ

/-- What the arguments of a command may be. -/
structure Grammar (σ : Type) where
  flags : List (Flag σ)
  /-- The name and the meaning of plain arguments; without one they end the reading. -/
  plain : Option (String × Valued σ) := none
  /-- What must be given. -/
  required : List String := []

/-- The options that were read so far, and the names of what was given. -/
structure Progress (σ : Type) where
  options : σ
  given : List String := []

variable {σ : Type}

namespace Progress

/-- Note that a flag is given. -/
def note (p : Progress σ) (name : String) (repeats : Bool) : Except Halt (Progress σ) :=
  if p.given.contains name && !repeats then .error (.misuse (.repeated name))
  else .ok { p with given := name :: p.given }

/-- Give a value to a flag. -/
def accept (p : Progress σ) (name : String) (v : Valued σ) (value : String) :
    Except Halt (Progress σ) := do
  let p ← p.note name v.repeats
  match v.read value p.options with
  | some options => return { p with options }
  | none => .error (.misuse (.valueRefused name value))

end Progress

/-- A flag that waits for the next argument as its value. -/
abbrev Waiting (σ : Type) := Option (String × Valued σ)

namespace Grammar

/-- Read a long flag. -/
def long (g : Grammar σ) (p : Progress σ) (name : String) (value : Option String) :
    Except Halt (Progress σ × Waiting σ) :=
  match g.flags.find? (·.long = name) with
  | none => .error (.misuse (.unknownFlag name))
  | some f =>
    match f.effect, value with
    | .value v, some text => do return (← p.accept name v text, none)
    | .value v, none => .ok (p, some (name, v))
    | _, some _ => .error (.misuse (.noValueTaken name))
    | .halt h, none => .error h
    | .switch apply, none => do
      let p ← p.note name false
      return ({ p with options := apply p.options }, none)

/-- The value that the rest of a cluster gives to a flag; an equals sign may stand before it. -/
def attached : List Char → Option String
  | [] => none
  | '=' :: value => some (String.ofList value)
  | value => some (String.ofList value)

/-- Read a cluster of short flags. -/
def cluster (g : Grammar σ) (p : Progress σ) : List Char → Except Halt (Progress σ × Waiting σ)
  | [] => .ok (p, none)
  | c :: rest =>
    match g.flags.find? (·.short = some c) with
    | none => .error (.misuse (.unknownFlag (String.ofList ['-', c])))
    | some f =>
      match f.effect with
      | .halt h => .error h
      | .switch apply => do
        let p ← p.note f.long false
        g.cluster { p with options := apply p.options } rest
      | .value v =>
        match attached rest with
        | some text => do return (← p.accept f.long v text, none)
        | none => .ok (p, some (f.long, v))

/-- Whether plain arguments are numbers. -/
def plainNumeric (g : Grammar σ) : Bool :=
  match g.plain with
  | some (_, v) => v.numeric
  | none => false

/-- Whether an argument can be the value of a flag. -/
def canBeValue (g : Grammar σ) (v : Valued σ) (argument : String) : Bool :=
  match Argument.ofText argument with
  | .plain => true
  | .cluster cs => (v.numeric || g.plainNumeric) && Argument.isNumber cs
  | .long .. | .separator => false

/-- Read a plain argument. -/
def acceptPlain (g : Grammar σ) (p : Progress σ) (argument : String) : Except Halt (Progress σ) :=
  match g.plain with
  | some (name, v) => p.accept name v argument
  | none => .error (.misuse (.unexpected argument))

/-- Read arguments up to the end, or up to a plain one where those have no meaning. -/
def read (g : Grammar σ) (p : Progress σ) : List String → Except Halt (Progress σ × List String)
  | [] => .ok (p, [])
  | argument :: rest =>
    let continueWith : Progress σ × Waiting σ → Except Halt (Progress σ × List String)
      | (p, none) => g.read p rest
      | (p, some (name, v)) =>
        match rest with
        | [] => .error (.misuse (.valueMissing name))
        | value :: more =>
          if g.canBeValue v value then do g.read (← p.accept name v value) more
          else .error (.misuse (.valueMissing name))
    match Argument.ofText argument with
    | .separator => do return (← rest.foldlM g.acceptPlain p, [])
    | .plain =>
      if g.plain.isNone then .ok (p, argument :: rest)
      else do g.read (← g.acceptPlain p argument) rest
    | .long name value => do continueWith (← g.long p name value)
    | .cluster cs =>
      if g.plainNumeric && Argument.isNumber cs then do g.read (← g.acceptPlain p argument) rest
      else do continueWith (← g.cluster p cs)

/-- Read all arguments of a command, starting from its options by default. -/
def parse (g : Grammar σ) (start : σ) (arguments : List String) : Except Halt σ := do
  let (p, rest) ← g.read { options := start } arguments
  match rest, g.required.find? fun name => !p.given.contains name with
  | argument :: _, _ => .error (.misuse (.unexpected argument))
  | [], some name => .error (.misuse (.missing name))
  | [], none => return p.options

end Grammar

/-! ## Flags of every command -/

/-- When output is coloured. The marks of a check always are, and nothing else is. -/
def colorChoices : List String :=
  ["auto", "always", "never"]

/-- The flags that stand before a command and after it. -/
def Flag.global : List (Flag σ) :=
  [{ long := "color"
     effect := .value { read := fun s o => if colorChoices.contains s then some o else none } },
   { long := "verbose", short := some 'v', effect := .switch id },
   { long := "help", short := some 'h', effect := .halt .help }]

/-! ## Values -/

/-- A text that is not empty, as a path has to be. -/
def nonEmpty? (s : String) : Option String :=
  if s.isEmpty then none else some s

/-- A name and a value with an equals sign between them, the first one there is. -/
def pair? (s : String) : Option (String × String) :=
  match s.toList.dropWhile (· ≠ '=') with
  | _ :: value => some (String.ofList (s.toList.takeWhile (· ≠ '=')), String.ofList value)
  | [] => none

end Phrasebook.CommandLine
