import Phrasebook.Unicode.Age
import Phrasebook.Unicode.Property
import Phrasebook.Unicode.Script
import Phrasebook.Unicode.Segmentation

/-!
# Asking for characters by name

A set of characters is asked for by the name of a property, a category or a script, or by the name of
a property with one of its values: `Greek`, `script=Greek`, `sc:Greek`. The separators `!=`, `:` and `=`
mean the same. Case, blanks, dashes and underscores in names do not matter, nor does `is` in front.
-/

namespace Phrasebook.Unicode.Query

/-- Whether a character separates the words of a name. -/
def isFiller (c : Char) : Bool :=
  c = ' ' || c = '_' || c = '-'

/-- What counts of the characters of a name. -/
def lettersOf (cs : List Char) : List Char :=
  (cs.filter fun c => !isFiller c && c.toNat < 0x80).map Char.toLower

/-- The form in which a name is looked up. The name `isc` is not a `c` with `is` in front. -/
def normalise (name : List Char) : String :=
  match name with
  | i :: s :: rest =>
    if i.toLower = 'i' ∧ s.toLower = 's' then
      let letters := lettersOf rest
      if letters = ['c'] then "isc" else String.ofList letters
    else String.ofList (lettersOf name)
  | _ => String.ofList (lettersOf name)

/-- The set of a single name: a property, else a category, else a script. Three short names are never
taken for properties. -/
def byName? (name : List Char) : Option CharSet :=
  let key := normalise name
  let property := if ["cf", "sc", "lc"].contains key then none else Property.find? key
  property <|> Category.find? key <|> Script.find? key

/-- The set of a property that takes values. -/
def byValue? (property value : List Char) : Option CharSet :=
  let key := normalise value
  match normalise property with
  | "gc" | "generalcategory" => Category.find? key
  | "sc" | "script" => Script.find? key
  | "scx" | "scriptextensions" => Script.findExtended? key
  | "age" => Age.find? key
  | "gcb" | "graphemeclusterbreak" => Segmentation.graphemes.set? key
  | "wb" | "wordbreak" => Segmentation.words.set? key
  | "sb" | "sentencebreak" => Segmentation.sentences.set? key
  | _ => none

/-- Cut a text at the first place where a separator stands. -/
def cutAt? (separator : List Char) : List Char → Option (List Char × List Char)
  | [] => none
  | c :: cs =>
    if separator.isPrefixOf (c :: cs) then some ([], (c :: cs).drop separator.length)
    else (cutAt? separator cs).map fun (before, after) => (c :: before, after)

/-- The set that is asked for. -/
def find? (query : List Char) : Option CharSet :=
  match cutAt? ['!', '='] query <|> cutAt? [':'] query <|> cutAt? ['='] query with
  | some (property, value) => byValue? property value
  | none => byName? query

end Phrasebook.Unicode.Query
