import Phrasebook.Json.Basic
import Phrasebook.Text.Blank

/-!
# Locales

**Reading.** A locale is read from a tag such as `en-GB`: blanks around the tag are dropped, all
before the first dash is the language, all after it the region, and an empty region is none.

**Writing.** As a tag again; in JSON a locale is the string of its tag.

**Fallback.** The base of a locale is its language alone; a locale without a region has no base.

**Order.** By language, then by region, and a locale without a region comes first.
-/

namespace Phrasebook

/-- A language with an optional region. -/
structure Locale where
  language : String
  region : Option String := none
  deriving DecidableEq, Ord, Repr, Inhabited

namespace Locale

/-- Read a tag: the language before the first dash, the region after it. -/
def ofTag (tag : String) : Locale :=
  let cs := Text.trimBlanks tag.toList
  let region := (cs.dropWhile (· ≠ '-')).drop 1
  { language := String.ofList (cs.takeWhile (· ≠ '-'))
    region := if region.isEmpty then none else some (String.ofList region) }

/-- Write a locale as a tag. -/
def tag (l : Locale) : String :=
  match l.region with
  | some region => l.language ++ "-" ++ region
  | none => l.language

/-- Write a locale as JSON. -/
def toJson (l : Locale) : Json :=
  .string l.tag

/-- Read a locale from JSON; any string names one. -/
def ofJson? (j : Json) : Option Locale :=
  j.string?.map ofTag

/-- The locale to fall back to: the language, if there is a region to drop. -/
def base? (l : Locale) : Option Locale :=
  l.region.map fun _ => { language := l.language }

/-- A locale that names no language. -/
def isEmpty (l : Locale) : Bool :=
  l.language.isEmpty

end Locale

end Phrasebook
