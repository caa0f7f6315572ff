import Phrasebook.Number.Numeral

/-!
# Quantities

A quantity is what a plural form counts: a whole number of 64 bits or a double. It is written as a
numeral (`text`), read from one (`ofText`), and split into the operands that plural rules look at.
-/

namespace Phrasebook

open Number

/-- A number that selects plural forms. -/
inductive Quantity where
  | integer (n : Int64)
  | fraction (x : Float)
  deriving Inhabited

/-- Why a text is no quantity. -/
inductive NumeralError where
  | empty
  | malformed
  deriving DecidableEq, Repr

/-- The wording of a reading error. -/
def NumeralError.message : NumeralError → String
  | .empty => "cannot parse float from empty string"
  | .malformed => "invalid float literal"

/-- The parts of a number that plural rules look at: the whole part, then count and value of the
fraction digits, with trailing zeros and without them. -/
structure Operands where
  whole : Nat
  shown : Nat := 0
  shownValue : Nat := 0
  kept : Nat := 0
  keptValue : Nat := 0
  deriving DecidableEq, Repr, Inhabited

namespace Quantity

/-- A quantity equal to zero, of either sign. -/
def isZero : Quantity → Bool
  | integer n => n == 0
  | fraction x => x == 0.0

/-- The nearest double. -/
def toFloat : Quantity → Float
  | integer n => n.toFloat
  | fraction x => x

/-- A quantity as it is written where no locale is asked for: the shortest numeral, `0` for either
zero, and `Infinity` in full. -/
def text : Quantity → String
  | integer n => toString n.toInt
  | fraction x =>
    if x.isInf then (if isNegative x then "-Infinity" else "Infinity")
    else if x == 0.0 then "0"
    else plainText x

/-- Read a numeral: a whole number of 64 bits if it is one, else a double. -/
def ofText (s : String) : Except NumeralError Quantity :=
  match readInt64? s with
  | some n => .ok (integer n)
  | none =>
    match readFloat? double s with
    | some x => .ok (fraction x)
    | none => .error (if s.isEmpty then .empty else .malformed)

end Quantity

/-! ## Operands -/

namespace Operands

/-- Split trailing zeros off the last `count` digits of a number. -/
def dropZeros : Nat → Nat → Nat × Nat
  | 0, _ => (0, 0)
  | count + 1, value =>
    if value % 10 = 0 then dropZeros count (value / 10) else (count + 1, value)

/-- The least whole number of nineteen digits. -/
def wholeLimit : Nat := 1000000000000000000

/-- The operands of a decimal. At most eighteen digits of either part are looked at; a longer whole
part is marked by a nineteenth. -/
def ofDecimal (d : Decimal) : Operands :=
  let places := (-d.exponent).toNat
  let digits := d.digits * Nat.pow 10 d.exponent.toNat
  let whole := digits / Nat.pow 10 places
  let shown := min places 18
  let shownValue := digits % Nat.pow 10 places / Nat.pow 10 (places - shown)
  let (kept, keptValue) := dropZeros shown shownValue
  { whole := if whole < wholeLimit then whole else whole % wholeLimit + wholeLimit
    shown, shownValue, kept, keptValue }

end Operands

/-- The operands of a quantity; infinities and what is no number have none. -/
def Quantity.operands? : Quantity → Option Operands
  | .integer n => some { whole := n.toInt.natAbs }
  | .fraction x =>
    if exponentField x.toBits = 2047 then none
    else
      let d := Dyadic.ofBits x.toBits
      some (.ofDecimal (if d.significand = 0 then ⟨0, 0⟩ else d.shortest))

end Phrasebook
