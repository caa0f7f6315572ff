import Phrasebook.CommandLine.Grammar
import Phrasebook.CommandLine.Outcome
import Phrasebook.CommandLine.Table
import Phrasebook.Speech.Registry

/-!
# The command `speak`

Puts numbers into words. One number is printed as its words alone, several as a table.
-/

namespace Phrasebook.CommandLine

/-- Which numbers to put into words, and by which mapping. -/
structure Speak where
  numbers : List Int64 := []
  mapping : String := Speech.English.americanKey
  /-- Further mappings: their keys with the paths of their files. -/
  mappingFiles : List (String × String) := []
  json : Bool := false

namespace Speak

/-- The arguments of `speak`. -/
def grammar : Grammar Speak where
  flags :=
    [{ long := "mapping", short := some 'm'
       effect := .value { read := fun s o => some { o with mapping := s } } },
     { long := "mappings-file"
       effect := .value
        { repeats := true
          read := fun s o => (pair? s).map fun p =>
            { o with mappingFiles := o.mappingFiles ++ [p] } } },
     { long := "json", effect := .switch fun o => { o with json := true } }] ++ Flag.global
  plain := some ("NUMBERS",
    { repeats := true
      numeric := true
      read := fun s o => (Number.readInt64? s).map fun n =>
        { o with numbers := o.numbers ++ [n] } })
  required := ["NUMBERS"]

/-- Load further mappings one after another. -/
def loadAll (files : Files) (r : Speech.Registry) :
    List (String × String) → Except LoadError Speech.Registry
  | [] => .ok r
  | (key, path) :: rest => do loadAll files (← r.loadFile files key path) rest

/-- The numbers with their words. -/
def rows (r : Speech.Registry) (key : String) :
    List Int64 → Except LookupError (List (Int64 × String))
  | [] => .ok []
  | n :: rest => do
    let words ← r.speak n key
    let more ← rows r key rest
    return (n, words) :: more

/-- A number with its words as JSON. -/
def rowJson (n : Int64) (words : String) : Json :=
  .object [("number", .number (.integer n.toInt)), ("words", .string words)]

/-- Numbers with their words as text. -/
def rowLines : List (Int64 × String) → List String
  | [(_, words)] => [words]
  | rows =>
    let table : Table :=
      { header := ["Number", "Words"]
        rows := rows.map fun (n, words) => [toString n.toInt, words] }
    table.lines

/-- Run the command. -/
def run (files : Files) (o : Speak) : Outcome :=
  match loadAll files .standard o.mappingFiles with
  | .error e => .ofLoadError e
  | .ok registry =>
    match rows registry o.mapping o.numbers with
    | .error e => .noAnswer ("Speech error: " ++ e.message)
    | .ok rows =>
      .success
        (if o.json then [(Json.array (rows.map fun (n, words) => rowJson n words)).pretty]
        else rowLines rows)

end Speak

end Phrasebook.CommandLine
