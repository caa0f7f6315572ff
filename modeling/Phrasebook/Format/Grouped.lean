import Phrasebook.Format.Symbols
import Phrasebook.LanguageTag
import Phrasebook.Translator

/-!
# Numbers in the style of a locale

The decimal expansion of a number is written with the digits and marks of a locale, and its whole
part is cut into groups. A locale that is no well-formed tag, and a number without an expansion,
leave the number as it is.
-/

namespace Phrasebook.Format

open Number

/-- When digits are grouped: as the locale does, never, or only with two digits before the first
mark. -/
inductive Grouping where
  | locale
  | never
  | minTwo
  deriving DecidableEq, Repr

/-- The lines of the table for a tag, the most particular first. -/
def symbolLines (tag : LanguageTag) : List Symbols :=
  tag.candidates.filterMap fun name =>
    (symbolTable.find? fun (names, _) => names.contains name).map (·.2)

/-- The symbols for a tag. If the tag names a numbering system, the first line that has its digits
is taken, else the first line, with those digits. -/
def symbolsFor (tag : LanguageTag) : Symbols :=
  let lines := symbolLines tag
  let own := lines.headD {}
  match tag.numbering.bind Digits.ofName? with
  | some digits => (lines.find? (·.digits = digits)).getD { own with digits }
  | none => own

/-- Cut digits, which stand in reverse, into groups of `size`; `fuel` is at least their count. -/
def cutGroups (size : Nat) : Nat → List Char → List (List Char)
  | 0, _ => []
  | fuel + 1, ds =>
    if ds.length ≤ size then [ds] else ds.take size :: cutGroups size fuel (ds.drop size)

/-- The groups of whole digits, from left to right. -/
def groupsOf (symbols : Symbols) (grouping : Grouping) (ds : List Char) : List (List Char) :=
  let minimum :=
    match grouping with
    | .minTwo => max 2 symbols.minimum
    | _ => symbols.minimum
  if grouping = .never ∨ ds.length < symbols.primary + minimum then [ds]
  else
    let reversed := ds.reverse
    let first := reversed.take symbols.primary
    let others := cutGroups symbols.secondary ds.length (reversed.drop symbols.primary)
    ((first :: others).map List.reverse).reverse

/-- A digit of a set, given in ASCII. -/
def Digits.digit (digits : Digits) (c : Char) : Char :=
  Char.ofNat (digits.zero + digitValue c)

/-- Write a decimal expansion, which may have a minus sign in front and a point inside. -/
def writeExpansion (symbols : Symbols) (grouping : Grouping) (expansion : List Char) : String :=
  let (negative, cs) := splitSign expansion
  let whole := cs.takeWhile (· ≠ '.')
  let fraction := (cs.dropWhile (· ≠ '.')).drop 1
  let localized (ds : List Char) := String.ofList (ds.map symbols.digits.digit)
  (if negative then symbols.minus else "") ++
    symbols.group.intercalate ((groupsOf symbols grouping whole).map localized) ++
    (if fraction.isEmpty then "" else symbols.decimal ++ localized fraction)

/-- Whether a quantity has a decimal expansion. -/
def hasExpansion : Quantity → Bool
  | .integer _ => true
  | .fraction x => exponentField x.toBits ≠ 2047

/-- A number in the style of a locale. -/
def number (q : Quantity) (locale : Locale) (grouping : Grouping) : String :=
  match LanguageTag.ofText? locale.tag with
  | some tag =>
    if hasExpansion q then writeExpansion (symbolsFor tag) grouping q.text.toList else q.text
  | none => q.text

end Phrasebook.Format

namespace Phrasebook.Translator

/-- A number in the style of a locale, or of the one in use. -/
def formatNumber (t : Translator) (q : Quantity) (l : Option Locale)
    (grouping : Format.Grouping := .locale) : String :=
  Format.number q (l.getD t.locale) grouping

end Phrasebook.Translator
