/-!
# The number symbols of the languages

By language: the decimal and grouping marks, the minus sign, the digits, and how digits are grouped.
A language that is not listed uses the symbols of the root, which are the defaults.

**Limits.** The table is a copy made by hand of a part of the common locale data. A language that
has symbols of its own there and is not listed here is written with those of the root. No result
about texts rests on the table.
-/

namespace Phrasebook.Format

/-- A set of ten digits. -/
inductive Digits where
  | latn
  | arab
  | arabext
  | deva
  | beng
  | thai
  | mymr
  deriving DecidableEq, Repr

/-- The code point of a set's zero; the other digits follow it. -/
def Digits.zero : Digits → Nat
  | latn => 0x30
  | arab => 0x660
  | arabext => 0x6F0
  | deva => 0x966
  | beng => 0x9E6
  | thai => 0xE50
  | mymr => 0x1040

/-- The digits of a numbering system, by its name in language tags. -/
def Digits.ofName? : String → Option Digits
  | "latn" => some latn
  | "arab" => some arab
  | "arabext" => some arabext
  | "deva" => some deva
  | "beng" => some beng
  | "thai" => some thai
  | "mymr" => some mymr
  | _ => none

/-- The marks and digits of written numbers. The group next to the decimal mark has `primary`
digits, every other one `secondary`, and `minimum` digits must stand before the first mark. -/
structure Symbols where
  decimal : String := "."
  group : String := ","
  minus : String := "-"
  digits : Digits := .latn
  primary : Nat := 3
  secondary : Nat := 3
  minimum : Nat := 1
  deriving DecidableEq, Repr

/-- The symbols of languages and regions. -/
def symbolTable : List (List String × Symbols) := [
  (["und", "en", "es-MX", "ja", "zh", "ko", "th"], {}),
  (["en-IN", "hi", "ta"], { secondary := 2 }),
  (["en-ZA", "de-AT", "fr-CA", "ru", "uk", "cs"], { decimal := ",", group := "\u00a0" }),
  (["en-CH", "de-CH"], { group := "'" }),
  (["de", "es-AR", "pt", "da", "nl", "tr", "vi", "ro", "el"], { decimal := ",", group := "." }),
  (["fr"], { decimal := ",", group := "\u202f" }),
  (["fr-CH"], { decimal := ",", group := "'" }),
  (["es", "it"], { decimal := ",", group := ".", minimum := 2 }),
  (["it-CH"], { group := "'", minimum := 2 }),
  (["pt-PT", "pl", "hu", "bg", "lv", "ka"], { decimal := ",", group := "\u00a0", minimum := 2 }),
  (["sv", "fi", "nb", "lt"], { decimal := ",", group := "\u00a0", minus := "\u2212" }),
  (["bn"], { digits := .beng, secondary := 2 }),
  (["mr", "ne"], { digits := .deva, secondary := 2 }),
  (["ar", "he"], { minus := "\u200e-" }),
  (["ar-EG"], { decimal := "\u066b", group := "\u066c", minus := "\u061c-", digits := .arab }),
  (["ar-MA"], { decimal := ",", group := ".", minus := "\u200e-" }),
  (["fa"],
    { decimal := "\u066b", group := "\u066c", minus := "\u200e\u2212", digits := .arabext }),
  (["et"], { decimal := ",", group := "\u00a0", minus := "\u2212", minimum := 2 }),
  (["my"], { digits := .mymr }),
  (["hr"], { decimal := ",", group := ".", minus := "\u2212" }),
  (["sl"], { decimal := ",", group := ".", minus := "\u2212", minimum := 2 })]

end Phrasebook.Format
