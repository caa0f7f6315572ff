import Phrasebook.Number.Shortest

/-!
# Reading numerals

**Whole numbers.** An optional sign, then ASCII digits, in the range of 64 bits.

**Real numbers.** An optional sign, then `inf`, `infinity` or `nan` in any case, or digits with at
most one point among or beside them and an optional exponent. The value is the double nearest to
what is written; beyond the largest double it is infinite. A sign before `nan` is read and dropped:
there is one NaN here, without a sign.
-/

namespace Phrasebook.Number

/-- The value of an ASCII digit. -/
def digitValue (c : Char) : Nat :=
  c.toNat - '0'.toNat

/-- The number that a row of ASCII digits stands for. -/
def ofDigits (ds : List Char) : Nat :=
  ds.foldl (fun n c => 10 * n + digitValue c) 0

/-- Split an optional sign off; whether it is a minus comes first. -/
def splitSign : List Char → Bool × List Char
  | '+' :: rest => (false, rest)
  | '-' :: rest => (true, rest)
  | cs => (false, cs)

/-- A number with its sign. -/
def signed (negative : Bool) (n : Nat) : Int :=
  if negative then -n else n

@[simp] theorem signed_natAbs (n : Int) : signed (decide (n < 0)) n.natAbs = n := by
  by_cases hn : n < 0
  · rw [decide_eq_true hn, signed, if_pos rfl]
    omega
  · rw [decide_eq_false hn, signed, if_neg Bool.false_ne_true]
    omega

/-- Read a whole number with an optional sign. -/
def readInt? (s : String) : Option Int :=
  let (negative, ds) := splitSign s.toList
  if ds.isEmpty || !ds.all Char.isDigit then none
  else some (signed negative (ofDigits ds))

/-- Read a whole number of 64 bits. -/
def readInt64? (s : String) : Option Int64 := do
  let n ← readInt? s
  if Int64.minValue.toInt ≤ n ∧ n ≤ Int64.maxValue.toInt then some (Int64.ofInt n) else none

/-! ## Real numbers -/

/-- The value of a format nearest to a decimal, as a double. Decimals far outside the range of
doubles are told by their size alone. -/
def Decimal.toFloat (d : Decimal) (fmt : Format) (negative : Bool) : Float :=
  let size : Int := (digitsText d.digits).length + d.exponent
  if d.digits = 0 ∨ size < -400 then Float.ofBits (signBit negative)
  else if size > 400 then infinity negative
  else
    match fmt.nearest? (d.digits * Nat.pow 10 d.exponent.toNat) (Nat.pow 10 (-d.exponent).toNat) with
    | some dyadic => dyadic.toFloat negative
    | none => infinity negative

/-- Read the exponent that ends a numeral. -/
def readExponent? : List Char → Option Int
  | [] => some 0
  | c :: rest =>
    let (negative, ds) := splitSign rest
    if (c = 'e' ∨ c = 'E') ∧ !ds.isEmpty ∧ ds.all Char.isDigit then
      some (signed negative (ofDigits ds))
    else none

/-- Read digits with an optional point and exponent. -/
def readDecimal? (cs : List Char) : Option Decimal := do
  let whole := cs.takeWhile Char.isDigit
  let rest := cs.dropWhile Char.isDigit
  let (fraction, rest) :=
    match rest with
    | '.' :: rest => (rest.takeWhile Char.isDigit, rest.dropWhile Char.isDigit)
    | rest => ([], rest)
  if whole.isEmpty && fraction.isEmpty then none
  else
    let exponent ← readExponent? rest
    some ⟨ofDigits (whole ++ fraction), exponent - fraction.length⟩

/-- Read a real number, rounded to a format. A NaN has no sign: `-nan` reads as `nan` does. -/
def readFloat? (fmt : Format) (s : String) : Option Float :=
  let (negative, cs) := splitSign s.toList
  let word := String.ofList (cs.map Char.toLower)
  if word = "inf" ∨ word = "infinity" then some (infinity negative)
  else if word = "nan" then some notANumber
  else (readDecimal? cs).map fun d => d.toFloat fmt negative

end Phrasebook.Number
