/-!
# Binary floating point

**Values.** The magnitude of a finite float is a dyadic number `m · 2^q`. A format fixes how many
bits `m` may have and how small and how large `q` may be.

**Rounding.** `Format.nearest?` gives the value of a format that is nearest to a quotient of two
whole numbers; of two equally near ones, that with the even significand. All arithmetic is exact.

**Bits.** `Dyadic.ofBits` and `Dyadic.toFloat` go between a double's bits and its magnitude.
-/

namespace Phrasebook.Number

/-- The number `significand · 2^exponent`. -/
structure Dyadic where
  significand : Nat
  exponent : Int
  deriving DecidableEq, Repr

/-- How many bits a significand may have, and the least and greatest exponent that go with it. -/
structure Format where
  precision : Nat
  least : Int
  greatest : Int

/-- Double precision. -/
def double : Format := ⟨53, -1074, 971⟩

/-- Single precision. -/
def single : Format := ⟨24, -149, 104⟩

/-- The whole number nearest to `num / den`; halfway between two, the even one. -/
def roundDiv (num den : Nat) : Nat :=
  let quotient := num / den
  let rest := 2 * (num % den)
  if rest < den ∨ (rest = den ∧ quotient % 2 = 0) then quotient else quotient + 1

/-- The quotient `num / den` divided by `2^q`, again as a quotient. -/
def scaleDown (num den : Nat) (q : Int) : Nat × Nat :=
  (num * Nat.pow 2 (-q).toNat, den * Nat.pow 2 q.toNat)

/-- The value nearest to `num / den`, if it is not too large for the format. -/
def Format.nearest? (fmt : Format) (num den : Nat) : Option Dyadic :=
  if num = 0 then some ⟨0, fmt.least⟩
  else
    let low : Int := max (num.log2 - den.log2 - fmt.precision) fmt.least
    let (a, b) := scaleDown num den low
    let q := if a / b < Nat.pow 2 fmt.precision then low else low + 1
    let (a, b) := scaleDown num den q
    let m := roundDiv a b
    let (m, q) := if m < Nat.pow 2 fmt.precision then (m, q) else (m / 2, q + 1)
    if q ≤ fmt.greatest then some ⟨m, q⟩ else none

/-! ## Bits of a double -/

/-- The bits of the sign of a negative double. -/
def signBit (negative : Bool) : UInt64 :=
  if negative then 0x8000000000000000 else 0

/-- The bits of positive infinity. -/
def infinityBits : UInt64 := 0x7FF0000000000000

/-- The place of the leading bit of a normal significand, which is not stored. -/
def hiddenBit : Nat := 0x10000000000000

/-- The exponent field of a double's bits. -/
def exponentField (bits : UInt64) : Nat :=
  bits.toNat / hiddenBit % 2048

/-- The fraction field of a double's bits. -/
def fractionField (bits : UInt64) : Nat :=
  bits.toNat % hiddenBit

/-- The magnitude that the bits of a finite double stand for. -/
def Dyadic.ofBits (bits : UInt64) : Dyadic :=
  if exponentField bits = 0 then ⟨fractionField bits, -1074⟩
  else ⟨fractionField bits + hiddenBit, exponentField bits - 1075⟩

/-- The double of a magnitude that double precision holds exactly. -/
def Dyadic.toFloat (d : Dyadic) (negative : Bool) : Float :=
  let shift := min (52 - d.significand.log2) (d.exponent + 1074).toNat
  let m := d.significand * Nat.pow 2 shift
  let bits :=
    if m < hiddenBit then m
    else ((d.exponent - shift + 1075).toNat * hiddenBit) + (m - hiddenBit)
  Float.ofBits (signBit negative ||| bits.toUInt64)

/-- Plus or minus infinity. -/
def infinity (negative : Bool) : Float :=
  Float.ofBits (signBit negative ||| infinityBits)

/-- The one NaN. Floats tell no sign or payload of a NaN apart. -/
def notANumber : Float :=
  Float.ofBits 0x7FF8000000000000

end Phrasebook.Number
