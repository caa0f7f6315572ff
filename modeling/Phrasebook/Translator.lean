import Phrasebook.Resolution

/-!
# Translators

A translator is a catalogue with settings, and remembers for each locale the file that it was loaded
from. Its operations return the answer with the translator as it is afterwards.

**Remembered files.** Loading remembers the path; adding entries keeps it. Setting a namespace,
removing it, or replacing or removing all of them forgets it, because the data no longer come from
the file. Setting forgets the path before it looks at the data.
-/

namespace Phrasebook

/-- A catalogue, settings, and the files that locales were loaded from. -/
structure Translator where
  settings : Settings := {}
  catalogue : Catalogue := []
  paths : Dict Locale String := []
  deriving Inhabited

namespace Translator

/-- The answer to an operation, and the translator afterwards. -/
abbrev Step (α : Type) := Except LoadError α × Translator

/-- Take over a changed catalogue, or pass the error on and change nothing. -/
def store (t : Translator) : Except LoadError Catalogue → Step Unit
  | .ok c => (.ok (), { t with catalogue := c })
  | .error e => (.error e, t)

/-! ## Settings -/

/-- Change some settings. -/
def configure (t : Translator) (u : SettingsUpdate) : Translator :=
  { t with settings := t.settings.update u }

/-- The locale in use. -/
def locale (t : Translator) : Locale :=
  t.settings.activeLocale

/-- Choose a locale. -/
def setLocale (t : Translator) (l : Locale) : Translator :=
  { t with settings := { t.settings with locale := some l } }

/-- Go back to the default locale. -/
def clearLocale (t : Translator) : Translator :=
  { t with settings := { t.settings with locale := none } }

/-- Set the plural rule of a locale. -/
def setPluralRule (t : Translator) (l : Locale) (rule : PluralRule) : Translator :=
  { t with settings := { t.settings with pluralRules := t.settings.pluralRules.insert l rule } }

/-- The category of a quantity in a locale. -/
def pluralCategory (t : Translator) (q : Quantity) (l : Locale) (kind : PluralKind) : Category :=
  t.settings.pluralCategory q l kind

/-! ## Data -/

/-- Set the namespace of a locale. -/
def set (t : Translator) (l : Locale) (data : Json) : Step Unit :=
  store { t with paths := t.paths.erase l } (t.catalogue.setJson l data)

/-- Add entries to the namespace of a locale. -/
def add (t : Translator) (l : Locale) (data : Json) : Step Unit :=
  t.store (t.catalogue.mergeJson l data)

/-- Replace all namespaces. -/
def replaceAll (t : Translator) (data : Json) : Step Unit :=
  match Catalogue.ofJson data with
  | .ok c => (.ok (), { t with catalogue := c, paths := [] })
  | .error e => (.error e, t)

/-- Remove the namespace of a locale. -/
def remove (t : Translator) (l : Locale) : Translator :=
  { t with catalogue := t.catalogue.erase l, paths := t.paths.erase l }

/-- Remove all namespaces. -/
def removeAll (t : Translator) : Translator :=
  { t with catalogue := [], paths := [] }

/-- The namespace of a locale. -/
def namespace? (t : Translator) (l : Locale) : Option Namespace :=
  t.catalogue.get? l

/-! ## Files -/

/-- Read the JSON in a file. -/
def readJson (files : Files) (path : String) : Except LoadError Json :=
  match files.read path with
  | .error cause => .error (.unreadable path cause)
  | .ok text =>
    match Json.ofText text with
    | .error error => .error (.json path error)
    | .ok data => .ok data

/-- Load the namespace of a locale from a file, and count its leaf keys. -/
def load (t : Translator) (files : Files) (l : Locale) (path : String) : Step Nat :=
  match readJson files path with
  | .error e => (.error e, t)
  | .ok data =>
    match Catalogue.readNamespace (some l) data with
    | .error e => (.error e, t)
    | .ok ns =>
      (.ok ns.leafKeys.length,
        { t with catalogue := t.catalogue.set l ns, paths := t.paths.insert l path })

/-- Load the namespace of a locale again from its file. -/
def reload (t : Translator) (files : Files) (l : Locale) : Step Nat :=
  match t.paths.get? l with
  | some path => t.load files l path
  | none => (.error (.neverLoaded l), t)

/-! ## Questions -/

/-- Where a target locale departs from its source. -/
def validate (t : Translator) (source target : Locale) : List Divergence :=
  t.catalogue.divergences source target

/-- The warnings about a target locale: where it departs from its source. -/
def warnings (t : Translator) (source target : Locale) : List Warning :=
  (t.validate source target).map fun d => { locale := target.tag, divergence := d }

/-- The leaf keys of a source locale that a target locale lacks. -/
def missingKeys (t : Translator) (source target : Locale) : List String :=
  t.catalogue.lacking source target

/-- Resolve a key. -/
def resolve (t : Translator) (key : String) (r : Request) : Except LookupError Resolution :=
  t.settings.resolve t.catalogue key r

/-- The text of a key. -/
def translate (t : Translator) (key : String) (r : Request) : Except LookupError String :=
  (t.resolve key r).map (·.text)

end Translator

end Phrasebook
