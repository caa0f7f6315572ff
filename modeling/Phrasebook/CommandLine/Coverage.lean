import Phrasebook.CommandLine.Grammar
import Phrasebook.CommandLine.Outcome
import Phrasebook.CommandLine.Table
import Phrasebook.Path
import Phrasebook.Translator

/-!
# The command `coverage`

Loads a source file under the locale that its name says, and reports for each language how many of
the source's leaf keys its own file has. The files of the languages stand in one folder, by default
that of the source file; a language without a file lacks every key.

The languages are loaded into one translator, one after another, and each is compared with what the
translator then holds for the source locale.
-/

namespace Phrasebook.CommandLine

/-- What to compare, and where the files are. -/
structure Coverage where
  source : String := ""
  languages : List String := []
  /-- The folder of the languages' files; the source's own, if none is named. -/
  languageFolder : Option String := none
  strict : Bool := false
  json : Bool := false

namespace Coverage

/-- The arguments of `coverage`. -/
def grammar : Grammar Coverage where
  flags :=
    [{ long := "source"
       effect := .value { read := fun s o => (nonEmpty? s).map fun p => { o with source := p } } },
     { long := "lang"
       effect := .value
        { repeats := true
          read := fun s o => some { o with languages := o.languages ++ Text.splitAt ',' s } } },
     { long := "translations"
       effect := .value
        { read := fun s o => (nonEmpty? s).map fun p => { o with languageFolder := p } } },
     { long := "strict", effect := .switch fun o => { o with strict := true } },
     { long := "json", effect := .switch fun o => { o with json := true } }] ++ Flag.global
  required := ["source"]

/-- The leaf keys of the source that a language lacks, and how many it has. -/
structure Row where
  language : String
  /-- The count of what is there, in 64 bits. -/
  translated : UInt64
  missing : List String
  deriving DecidableEq, Repr

/-- The file of a language. -/
def languagePath (folder language : String) : String :=
  Path.join folder (language ++ ".json")

/-- The folder of the languages' files. -/
def folder (o : Coverage) : String :=
  o.languageFolder.getD (Path.folder o.source)

/-- Load the file of a language, if there is one. -/
def loadLanguage (files : Files) (folder language : String) (t : Translator) :
    Except LoadError Translator :=
  let path := languagePath folder language
  if files.has path then
    match t.load files (.ofTag language) path with
    | (.ok _, t) => .ok t
    | (.error e, _) => .error e
  else .ok t

/-- The rows of languages, each after its own file is loaded. -/
def rows (files : Files) (folder : String) (source : Locale) (total : Nat) (t : Translator) :
    List String → Except LoadError (List Row)
  | [] => .ok []
  | language :: rest => do
    let t ← loadLanguage files folder language t
    let missing := t.missingKeys source (.ofTag language)
    let more ← rows files folder source total t rest
    return { language, translated := total.toUInt64 - missing.length.toUInt64, missing } :: more

/-- The count of the source's leaf keys with the rows of the languages. -/
def survey (files : Files) (o : Coverage) : Except LoadError (Nat × List Row) := do
  let source := Locale.ofTag (Path.stem o.source)
  match Translator.load {} files source o.source with
  | (.error e, _) => .error e
  | (.ok total, t) => return (total, ← rows files o.folder source total t o.languages)

/-- A row as JSON. -/
def Row.toJson (total : Nat) (r : Row) : Json :=
  .object
    [("locale", .string r.language), ("translated", .ofNat r.translated.toNat),
     ("total", .ofNat total), ("missing", .strings r.missing)]

/-- The rows as a table. -/
def table (total : Nat) (rows : List Row) : Table where
  header := ["Locale", "Coverage", "Missing"]
  rows := rows.map fun r =>
    [r.language, toString r.translated.toNat ++ "/" ++ toString total, toString r.missing.length]

/-- The missing keys of a row as lines, if there are some. -/
def Row.lines (r : Row) : List String :=
  if r.missing.isEmpty then []
  else ["", "Missing in " ++ r.language ++ ":"] ++ r.missing.map ("  - " ++ ·)

/-- Run the command. -/
def run (files : Files) (o : Coverage) : Outcome :=
  match survey files o with
  | .error e => .ofLoadError e
  | .ok (total, rows) =>
    .findings (!o.strict || rows.all (·.missing.isEmpty))
      (if o.json then [(Json.array (rows.map (Row.toJson total))).pretty]
      else (table total rows).lines ++ rows.flatMap Row.lines)

end Coverage

end Phrasebook.CommandLine
