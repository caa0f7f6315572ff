import Phrasebook.Dict
import Phrasebook.Quantity

/-!
# Variables

A variable stands for a whole number, a double or a text, and is put into a sentence as its `text`.
-/

namespace Phrasebook

open Number

/-- What a variable stands for. -/
inductive Value where
  | number (n : Int64)
  | float (x : Float)
  | string (s : String)
  deriving Inhabited

/-- Named values, in the order of the names. -/
abbrev Variables := Dict String Value

namespace Value

/-- A value as it stands in a sentence. -/
def text : Value → String
  | number n => toString n.toInt
  | float x => plainText x
  | string s => s

/-- The whole number, if the value is one. -/
def number? : Value → Option Int64
  | number n => some n
  | float _ | string _ => none

/-- The double, if the value is a number. -/
def float? : Value → Option Float
  | number n => some n.toFloat
  | float x => some x
  | string _ => none

/-- The text, if the value is one. -/
def string? : Value → Option String
  | string s => some s
  | number _ | float _ => none

/-- A count of things: its 64 bits are read as a signed number. -/
def ofCount (n : UInt64) : Value :=
  number n.toInt64

end Value

end Phrasebook
