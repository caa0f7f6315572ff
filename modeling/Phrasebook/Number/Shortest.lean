import Phrasebook.Number.Binary

/-!
# The shortest decimal of a double

**Decimals.** A decimal is `digits · 10^exponent` with whole digits.

**The rule.** The reals that round to a double form an interval around it, ends included exactly
when the significand is even. Of the decimals in that interval the coarsest grid `10^k` that has
one is taken, and on it the one nearest to the double. A grid has a point in the interval exactly
when one of the double's two neighbours on the grid lies there, so only those are looked at.

**Writing.** `plainText` writes the shortest decimal without an exponent.
-/

namespace Phrasebook.Number

/-- The number `digits · 10^exponent`. -/
structure Decimal where
  digits : Nat
  exponent : Int
  deriving DecidableEq, Repr

/-! ## The search -/

/-- The decimal on the grid `10^k` that is nearest to `d` among those that round to it, if its
neighbours on that grid do. Everything is measured in quarters of the last place of `d`. -/
def Dyadic.onGrid? (d : Dyadic) (k : Int) : Option Decimal :=
  let m := d.significand
  let q := d.exponent
  let point := Nat.pow 10 k.toNat * Nat.pow 2 (2 - q).toNat
  let quarter := Nat.pow 10 (-k).toNat * Nat.pow 2 (q - 2).toNat
  let below := if m = hiddenBit ∧ q > -1074 then 1 else 2
  let low := (4 * m - below) * quarter
  let high := (4 * m + 2) * quarter
  let value := 4 * m * quarter
  let inside (c : Nat) : Bool :=
    if m % 2 = 0 then low ≤ c * point && c * point ≤ high
    else low < c * point && c * point < high
  let c := value / point
  match inside c, inside (c + 1) with
  | true, true => some ⟨if 2 * (value - c * point) < point then c else c + 1, k⟩
  | true, false => some ⟨c, k⟩
  | false, true => some ⟨c + 1, k⟩
  | false, false => none

/-- The decimal that has all digits of `d`. -/
def Dyadic.toDecimal (d : Dyadic) : Decimal :=
  if d.exponent ≥ 0 then ⟨d.significand * Nat.pow 2 d.exponent.toNat, 0⟩
  else ⟨d.significand * Nat.pow 5 (-d.exponent).toNat, d.exponent⟩

/-- Try the grids `10^k`, `10^(k-1)`, … and take the first hit. -/
def Dyadic.firstHit (d : Dyadic) (k : Int) : Nat → Decimal
  | 0 => d.toDecimal
  | tries + 1 =>
    match d.onGrid? k with
    | some decimal => decimal
    | none => d.firstHit (k - 1) tries

/-- The shortest decimal that rounds to a positive `d`. The search starts on a grid coarser than
`d`, found from the binary logarithm; seventeen digits always suffice. -/
def Dyadic.shortest (d : Dyadic) : Decimal :=
  let binary : Int := d.significand.log2 + 1 + d.exponent
  d.firstHit (binary * 30103 / 100000 + 1) 24

/-! ## Plain text -/

/-- The decimal digits of a number. -/
def digitsText (n : Nat) : List Char :=
  Nat.toDigits 10 n

/-- A decimal in positional notation, without an exponent. -/
def Decimal.plain (d : Decimal) : List Char :=
  let ds := digitsText d.digits
  let places := (-d.exponent).toNat
  if places = 0 then ds ++ List.replicate d.exponent.toNat '0'
  else if places < ds.length then
    ds.take (ds.length - places) ++ '.' :: ds.drop (ds.length - places)
  else '0' :: '.' :: (List.replicate (places - ds.length) '0' ++ ds)

/-- A double's magnitude without its sign: no exponent, no fraction if it is whole. -/
def magnitudeText (bits : UInt64) : String :=
  if exponentField bits = 2047 then
    if fractionField bits = 0 then "inf" else "NaN"
  else
    let d := Dyadic.ofBits bits
    if d.significand = 0 then "0" else String.ofList d.shortest.plain

/-- Whether a double carries a minus sign and is a number. -/
def isNegative (x : Float) : Bool :=
  signBit true ≤ x.toBits && !x.isNaN

/-- A double as text: the fewest digits that read back, in positional notation; `-0` keeps its
sign, and what is no number is `NaN`. -/
def plainText (x : Float) : String :=
  (if isNegative x then "-" else "") ++ magnitudeText x.toBits

end Phrasebook.Number
