import Phrasebook.Catalogue
import Phrasebook.Interpolation
import Phrasebook.Settings

/-!
# From a key to a text

**Stages.** First the locale: the requested one, or its base if that alone is there. Then the entry
under the key. Then the form, if the entry has several. Last the placeholders.

**Failures.** Where the locale or the entry is missing, strict settings give an error, and lenient
ones let a handler or the key itself stand in. A placeholder that is left over is always an error.
-/

namespace Phrasebook

/-- Where a text comes from. -/
inductive Origin where
  /-- An entry of the catalogue. -/
  | catalogue
  /-- The handler for missing texts. -/
  | handler
  /-- The key, for want of a text. -/
  | key
  deriving DecidableEq, Repr

/-- A text with all that was decided on the way to it. -/
structure Resolution where
  text : String
  /-- The locale that was asked for. -/
  requested : Locale
  /-- The locale that was used, if one was found. -/
  locale : Option Locale
  /-- The category that chose the form. -/
  category : Option Category := none
  origin : Origin
  deriving DecidableEq, Repr

/-- What is missing: the locale, or an entry in the locale that serves. -/
inductive Lack where
  | locale
  | entry (locale : Locale) (suggestions : List String)
  deriving DecidableEq, Repr

namespace Settings

/-- The locale of a request: its own, unless it names no language, else the one in use. -/
def requestedLocale (s : Settings) (r : Request) : Locale :=
  match r.locale with
  | some l => if l.isEmpty then s.activeLocale else l
  | none => s.activeLocale

/-- The category of a quantity in a locale: by the rule set for it, else by its language. -/
def pluralCategory (s : Settings) (q : Quantity) (locale : Locale) (kind : PluralKind) : Category :=
  match s.pluralRules.get? locale with
  | some rule => rule q
  | none => Plural.plainCategory s.languageRules locale.tag q kind

/-- The form of a text for a quantity, and the category that chose it. A rule set for the locale
comes first, then the form for zero, then the language. -/
def selectForm (s : Settings) (locale : Locale) (q : Quantity) (f : PluralForms) :
    Category × String :=
  match s.pluralRules.get? locale with
  | some rule => (rule q, f.select (rule q))
  | none =>
    match f.zero, s.polyfillZero && q.isZero with
    | some zero, true => (.zero, zero)
    | _, _ =>
      let category := Plural.plainCategory s.languageRules locale.tag q .cardinal
      (category, f.select category)

/-- The text of an entry before placeholders are filled; a group has none. -/
def selectText (s : Settings) (locale : Locale) (q : Option Quantity) :
    Entry → Option (Option Category × String)
  | .text t => some (none, t)
  | .plural f =>
    match q with
    | some q =>
      let (category, t) := s.selectForm locale q f
      some (some category, t)
    | none => some (none, f.other)
  | .group _ => none

/-- What a lack is answered with. -/
def onLack (s : Settings) (key : String) (r : Request) (lack : Lack) :
    Except LookupError Resolution :=
  let requested := s.requestedLocale r
  if s.strict then
    match lack with
    | .locale => .error (.invalidLocale requested)
    | .entry locale near => .error (.missingText key locale near)
  else
    let (failed, served) :=
      match lack with
      | .locale => (requested, none)
      | .entry locale _ => (locale, some locale)
    match s.onMissing with
    | some handler =>
      .ok { text := handler key failed r, requested, locale := served, origin := .handler }
    | none => .ok { text := key, requested, locale := served, origin := .key }

/-- Look up the text of a key: the locale that serves, the category that chose a form, and the text
before placeholders are filled; or what is missing. -/
def lookup (s : Settings) (c : Catalogue) (key : String) (r : Request) :
    Except Lack (Locale × Option Category × String) :=
  match c.serving? (s.requestedLocale r) with
  | none => .error .locale
  | some (locale, ns) =>
    match ns.find key with
    | .error near => .error (.entry locale near)
    | .ok entry =>
      match s.selectText locale r.quantity entry with
      | none => .error (.entry locale [])
      | some (category, text) => .ok (locale, category, text)

/-- Resolve a key. -/
def resolve (s : Settings) (c : Catalogue) (key : String) (r : Request) :
    Except LookupError Resolution :=
  match s.lookup c key r with
  | .error lack => s.onLack key r lack
  | .ok (locale, category, text) => do
    let text ← Interpolation.complete (some key) text r.values r.quantity
    return { text, requested := s.requestedLocale r, locale := some locale, category,
             origin := .catalogue }

end Settings

end Phrasebook
