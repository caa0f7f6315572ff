import Phrasebook.CommandLine.Grammar
import Phrasebook.CommandLine.Outcome
import Phrasebook.Path
import Phrasebook.Translator

/-!
# The command `check`

Reads files, each as the namespace of the locale that its name says, and reports on each: what is
wrong with it, or where it departs from a source file and which of its keys it lacks.

A file that is no JSON ends the run, unless the report is JSON itself and can hold the message.
-/

namespace Phrasebook.CommandLine

/-- Which files to check, and against which source. -/
structure Check where
  paths : List String := []
  source : Option String := none
  json : Bool := false

namespace Check

/-- The arguments of `check`. -/
def grammar : Grammar Check where
  flags :=
    [{ long := "source"
       effect := .value { read := fun s o => (nonEmpty? s).map fun p => { o with source := p } } },
     { long := "json", effect := .switch fun o => { o with json := true } }] ++ Flag.global
  plain := some ("FILES",
    { repeats := true
      read := fun s o => (nonEmpty? s).map fun p => { o with paths := o.paths ++ [p] } })
  required := ["FILES"]

/-- What was found in a file. -/
structure Report where
  path : String
  keys : Nat := 0
  error : Option String := none
  warnings : List String := []
  deriving DecidableEq, Repr

/-- The namespace in a file, or what is wrong with it. -/
def load (files : Files) (path : String) (json : Bool) :
    Except LoadError (Except String Namespace) :=
  match Translator.readJson files path with
  | .error (.json path e) => if json then .ok (.error e.message) else .error (.json path e)
  | .error e => .error e
  | .ok data =>
    match Catalogue.readNamespace (some (.ofTag (Path.stem path))) data with
    | .ok ns => .ok (.ok ns)
    | .error e => .ok (.error e.message)

/-- The locale under which a source is compared. -/
def sourceLocale : Locale := .ofTag "source"

/-- The locale under which a target is compared. -/
def targetLocale : Locale := .ofTag "target"

/-- Where a target departs from its source, then what it lacks. -/
def compare (source target : Namespace) : List String :=
  let t : Translator :=
    { catalogue := (Catalogue.set [] sourceLocale source).set targetLocale target }
  (t.warnings sourceLocale targetLocale).map Warning.message ++
    (t.missingKeys sourceLocale targetLocale).map fun key =>
      "key '" ++ key ++ "' is not translated"

/-- The report on a file that was read. -/
def report (source : Option Namespace) (path : String) : Except String Namespace → Report
  | .ok ns =>
    { path, keys := ns.leafKeys.length
      warnings := source.elim [] fun s => compare s ns }
  | .error message => { path, error := message }

/-- The reports on files. -/
def reports (files : Files) (source : Option Namespace) (json : Bool) :
    List String → Except LoadError (List Report)
  | [] => .ok []
  | path :: rest => do
    let found ← load files path json
    let more ← reports files source json rest
    return report source path found :: more

/-- A report as JSON. -/
def Report.toJson (r : Report) : Json :=
  .object
    [("file", .string r.path), ("keys", .ofNat r.keys),
     ("error", match r.error with
      | some e => .string e
      | none => .null),
     ("warnings", .strings r.warnings)]

/-- Colours of marks, by their codes. -/
inductive Colour where
  | red
  | green
  | yellow

/-- The code of a colour. -/
def Colour.code : Colour → String
  | red => "31"
  | green => "32"
  | yellow => "33"

/-- A text in a colour. -/
def Colour.paint (c : Colour) (s : String) : String :=
  "\x1b[" ++ c.code ++ "m" ++ s ++ "\x1b[39m"

/-- A report as lines. -/
def Report.lines (r : Report) : List String :=
  (match r.error with
    | some e => Colour.red.paint "✗" ++ " " ++ r.path ++ ": " ++ e
    | none =>
      Colour.green.paint "✓" ++ " " ++ r.path ++ " (" ++ toString r.keys ++ " keys)") ::
  r.warnings.map fun w => "  " ++ Colour.yellow.paint "warning:" ++ " " ++ w

/-- The namespace of the source file, if one is named. -/
def loadSource (files : Files) : Option String → Except String (Option Namespace)
  | none => .ok none
  | some path =>
    match load files path false with
    | .error e => .error e.message
    | .ok (.error message) => .error ("Invalid source file " ++ path ++ ": " ++ message)
    | .ok (.ok ns) => .ok (some ns)

/-- Run the command. -/
def run (files : Files) (o : Check) : Outcome :=
  match loadSource files o.source with
  | .error message => .failure message
  | .ok source =>
    match reports files source o.json o.paths with
    | .error e => .ofLoadError e
    | .ok reports =>
      .findings (reports.all (·.error.isNone))
        (if o.json then [(Json.array (reports.map Report.toJson)).pretty]
        else reports.flatMap Report.lines)

end Check

end Phrasebook.CommandLine
