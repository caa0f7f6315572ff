import Phrasebook.Translator

/-!
# Counted and ordered things

A cardinal is a form chosen by a number, with the number put in once. An ordinal is a number with a
suffix chosen by its place.
-/

namespace Phrasebook

namespace Text

/-- Replace the first occurrence of `needle`, if there is one. -/
def replaceFirst (needle replacement : List Char) : List Char → List Char
  | [] => []
  | c :: cs =>
    if needle.isPrefixOf (c :: cs) then replacement ++ (c :: cs).drop needle.length
    else c :: replaceFirst needle replacement cs

end Text

namespace Translator

/-- The form for a number of things, before the number is put in. A form for zero serves for zero
whatever the language says. -/
def cardinalForm (t : Translator) (q : Quantity) (l : Locale) (f : PluralForms) : String :=
  match f.zero, q.isZero with
  | some zero, true => zero
  | _, _ => f.select (t.pluralCategory q l .cardinal)

/-- The form for a number of things, the number in place of its first placeholder. -/
def formatCardinal (t : Translator) (q : Quantity) (l : Locale) (f : PluralForms) : String :=
  String.ofList
    (Text.replaceFirst (Placeholder.ofName "number".toList) q.text.toList
      (t.cardinalForm q l f).toList)

/-- The suffixes of English ordinals. -/
def englishSuffixes : PluralForms :=
  { other := "th", forms := [(.one, "st"), (.two, "nd"), (.few, "rd")] }

/-- A place in a row: the number and its suffix. -/
def formatOrdinal (t : Translator) (n : Int64) (l : Option Locale)
    (suffixes : PluralForms := englishSuffixes) : String :=
  let category := t.pluralCategory (.integer n) (l.getD t.locale) .ordinal
  toString n.toInt ++ suffixes.select category

end Translator

end Phrasebook
