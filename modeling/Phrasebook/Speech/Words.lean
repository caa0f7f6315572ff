import Phrasebook.Speech.Mapping
import Phrasebook.Text.Blank

/-!
# Numbers in words

**Chunks.** A number below a thousand is a unit and the word for hundred, then a unit, a teen, or a
word for tens with an optional unit.

**Scales.** A number is its count of millions, which is put into words in the same way however large
it is, then its thousands, then the rest; what is zero is left out, and so is an empty word.

**Wordings.** How a number is put together does not hang on what the words are, nor on what becomes
of a chunk, so both are said for any.

**Phrases.** The words stand one blank apart and go through the rules of the mapping. A negative
number has the word for minus in front, which the rules do not see. Zero is a word of its own.
-/

namespace Phrasebook.Speech

/-- What the digits of a chunk become. -/
structure Wording (α : Type) where
  unit : Nat → α
  teen : Nat → α
  ten : Nat → α
  hundred : α

namespace Wording

variable {α : Type} (w : Wording α)

/-- The words for a number below a hundred. -/
def belowHundred (n : Nat) : List α :=
  if n = 0 then []
  else if n < 10 then [w.unit n]
  else if n < 20 then [w.teen n]
  else w.ten (n / 10) :: (if n % 10 = 0 then [] else [w.unit (n % 10)])

/-- The words for a number below a thousand. -/
def chunk (n : Nat) : List α :=
  (if n / 100 = 0 then [] else [w.unit (n / 100), w.hundred]) ++ w.belowHundred (n % 100)

end Wording

/-- The words for a number, from those for the numbers below a thousand and two words for scales. -/
def scaled {α : Type} (chunk : Nat → List α) (thousand million : α) (n : Nat) : List α :=
  let millions := n / 1000000
  let thousands := n % 1000000 / 1000
  let rest := n % 1000
  (if millions = 0 then []
    else if _h : 1000 ≤ millions then scaled chunk thousand million millions ++ [million]
    else chunk millions ++ [million]) ++
  (if thousands = 0 then [] else chunk thousands ++ [thousand]) ++
  (if rest = 0 then [] else chunk rest)
termination_by n
decreasing_by omega

namespace Vocabulary

/-- The wording of a vocabulary. -/
def wording (v : Vocabulary) : Wording String where
  unit := v.unit
  teen := v.teen
  ten := v.ten
  hundred := v.hundred

/-- The words for a number; those that a language has not are empty. -/
def allWords (v : Vocabulary) (n : Nat) : List String :=
  scaled v.wording.chunk v.thousand v.million n

/-- The words for a number. -/
def number (v : Vocabulary) (n : Nat) : List String :=
  (v.allWords n).filter (· ≠ "")

end Vocabulary

/-- Words one blank apart. -/
def phrase (words : List String) : String :=
  " ".intercalate words

/-- A number in words. -/
def Mapping.speak (m : Mapping) (n : Int64) : Except LookupError String :=
  if n = 0 then .ok m.words.zero
  else do
    let said ← m.applyRules (phrase (m.words.number n.toInt.natAbs))
    return Text.trim (if n < 0 then m.words.negative ++ " " ++ said else said)

end Phrasebook.Speech
