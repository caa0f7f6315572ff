import Phrasebook.Dict

/-!
# JSON values

A value is null, a boolean, a number, a string, an array or an object. The members of an object
that was read stand in the order of their names, each name once, unless the reading kept them all.
-/

namespace Phrasebook

/-- A whole number of at most 64 bits, or a double for every other number. -/
inductive Json.Numeral where
  | integer (n : Int)
  | double (x : Float)
  deriving Inhabited

/-- A JSON value. -/
inductive Json where
  | null
  | boolean (b : Bool)
  | number (n : Json.Numeral)
  | string (s : String)
  | array (items : List Json)
  | object (members : List (String × Json))
  deriving Inhabited

namespace Json

/-- What a value is, as an error text calls it. -/
def kind : Json → String
  | null => "null"
  | boolean _ => "a boolean"
  | number _ => "a number"
  | string _ => "a string"
  | array _ => "an array"
  | object _ => "a mapping"

/-- The text of a string. -/
def string? : Json → Option String
  | string s => some s
  | _ => none

/-- The items of an array. -/
def array? : Json → Option (List Json)
  | array items => some items
  | _ => none

/-- The members of an object. -/
def object? : Json → Option (Dict String Json)
  | object members => some members
  | _ => none

/-- The whole number of a number. -/
def integer? : Json → Option Int
  | number (.integer n) => some n
  | _ => none

/-- An array of strings. -/
def strings (items : List String) : Json :=
  array (items.map string)

/-- A whole number. -/
def ofNat (n : Nat) : Json :=
  number (.integer n)

end Json

end Phrasebook
