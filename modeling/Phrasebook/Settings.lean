import Phrasebook.Locale
import Phrasebook.Plural.Choice
import Phrasebook.Value

/-!
# Settings

How a translator chooses its locale, its plural forms, and what it does about a missing text.
-/

namespace Phrasebook

/-- What a text is asked for with. -/
structure Request where
  locale : Option Locale := none
  values : Variables := []
  quantity : Option Quantity := none
  deriving Inhabited

/-- A rule that gives a quantity its category. -/
abbrev PluralRule := Quantity → Category

/-- What stands in for a missing text: a function of its key, the locale that lacks it and the
request. -/
abbrev MissingHandler := String → Locale → Request → String

/-- The settings of a translator. -/
structure Settings where
  /-- The locale to use when none is chosen. -/
  defaultLocale : Locale := { language := "en", region := some "US" }
  /-- The locale that was chosen. -/
  locale : Option Locale := none
  /-- Whether a missing text is an error. -/
  strict : Bool := false
  /-- Whether a quantity of zero takes the form `zero` in every language. -/
  polyfillZero : Bool := true
  /-- What stands in for a missing text; without a handler it is the key. -/
  onMissing : Option MissingHandler := none
  /-- Rules that take the place of a language's own. -/
  pluralRules : Dict Locale PluralRule := []
  /-- Where the languages' own rules come from. No update changes it. -/
  languageRules : Plural.RuleSource := Plural.commonSource

instance : Inhabited Settings := ⟨{}⟩

/-- What an update does to an optional setting. -/
inductive Change (α : Type) where
  | keep
  | set (a : α)
  | clear

/-- A change of settings; what is not named stays as it is. -/
structure SettingsUpdate where
  defaultLocale : Option Locale := none
  locale : Change Locale := .keep
  strict : Option Bool := none
  polyfillZero : Option Bool := none
  onMissing : Change MissingHandler := .keep
  pluralRules : Dict Locale PluralRule := []

/-- The value of an optional setting after a change. -/
def Change.apply {α : Type} (old : Option α) : Change α → Option α
  | keep => old
  | set a => some a
  | clear => none

namespace Settings

/-- The locale in use: the chosen one, unless it names no language. -/
def activeLocale (s : Settings) : Locale :=
  match s.locale with
  | some l => if l.isEmpty then s.defaultLocale else l
  | none => s.defaultLocale

/-- Settings after an update. -/
def update (s : Settings) (u : SettingsUpdate) : Settings where
  defaultLocale := u.defaultLocale.getD s.defaultLocale
  locale := u.locale.apply s.locale
  strict := u.strict.getD s.strict
  polyfillZero := u.polyfillZero.getD s.polyfillZero
  onMissing := u.onMissing.apply s.onMissing
  pluralRules := s.pluralRules.insertAll u.pluralRules
  languageRules := s.languageRules

end Settings

end Phrasebook
