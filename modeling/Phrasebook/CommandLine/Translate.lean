import Phrasebook.CommandLine.Grammar
import Phrasebook.CommandLine.Outcome
import Phrasebook.Translator

/-!
# The command `translate`

Loads files of locales, resolves one key, and prints its text. Every file is loaded before the key
is looked up, and a file that does not load ends the run.
-/

namespace Phrasebook.CommandLine

/-- What to translate, and from which files. -/
structure Translate where
  /-- Locales with the paths of their files. -/
  files : List (String × String) := []
  key : String := ""
  /-- The locale to translate into; the first file's, if none is named. -/
  locale : Option String := none
  quantity : Option Quantity := none
  values : List (String × String) := []
  strict : Bool := false
  json : Bool := false

/-- A variable as it is given: a whole number or a real number if it reads as one, else a text. -/
def readValue (s : String) : Value :=
  match Number.readInt64? s with
  | some n => .number n
  | none =>
    match Number.readFloat? Number.double s with
    | some x => .float x
    | none => .string s

namespace Translate

/-- The arguments of `translate`. -/
def grammar : Grammar Translate where
  flags :=
    [{ long := "file", short := some 'f'
       effect := .value
        { repeats := true
          read := fun s o => (pair? s).map fun p => { o with files := o.files ++ [p] } } },
     { long := "key", short := some 'k'
       effect := .value { read := fun s o => some { o with key := s } } },
     { long := "locale", short := some 'l'
       effect := .value { read := fun s o => some { o with locale := s } } },
     { long := "quantity", short := some 'q'
       effect := .value
        { numeric := true
          read := fun s o => (Quantity.ofText s).toOption.map fun q => { o with quantity := q } } },
     { long := "var"
       effect := .value
        { repeats := true
          read := fun s o => (pair? s).map fun p => { o with values := o.values ++ [p] } } },
     { long := "strict", effect := .switch fun o => { o with strict := true } },
     { long := "json", effect := .switch fun o => { o with json := true } }] ++ Flag.global
  required := ["file", "key"]

/-- Load the files of locales one after another. -/
def loadAll (files : Files) (t : Translator) : List (String × String) → Except LoadError Translator
  | [] => .ok t
  | (tag, path) :: rest =>
    match t.load files (.ofTag tag) path with
    | (.ok _, t) => loadAll files t rest
    | (.error e, _) => .error e

/-- What the key is asked for with. -/
def request (o : Translate) : Request where
  locale := (o.locale.or (o.files.head?.map (·.1))).map .ofTag
  values := Dict.ofList (o.values.map fun (name, s) => (name, readValue s))
  quantity := o.quantity

/-- The name of an origin. -/
def originName : Origin → String
  | .catalogue => "translation"
  | .handler => "handler"
  | .key => "key"

/-- A text, or null. -/
def textOrNull : Option String → Json
  | some s => .string s
  | none => .null

/-- A resolution as JSON. -/
def resolutionJson (r : Resolution) : Json :=
  .object
    [("text", .string r.text), ("requested_locale", .string r.requested.tag),
     ("locale", textOrNull (r.locale.map Locale.tag)),
     ("category", textOrNull (r.category.map Category.tag)),
     ("source", .string (originName r.origin))]

/-- Run the command. -/
def run (files : Files) (o : Translate) : Outcome :=
  match loadAll files { settings := { strict := o.strict } } o.files with
  | .error e => .ofLoadError e
  | .ok t =>
    match t.resolve o.key o.request with
    | .ok r => .success [if o.json then (resolutionJson r).pretty else r.text]
    | .error e =>
      .noAnswer
        (if o.json then (Json.object [("error", .string e.message)]).pretty
        else "Translation error: " ++ e.message)

end Translate

end Phrasebook.CommandLine
