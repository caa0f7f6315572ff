import Phrasebook.Text.EditDistance

/-!
# Suggestions

For a name that was not found, the names that it may have been meant for: those at a small edit
distance, the nearest first and of equally near ones the smaller text, three at most.
-/

namespace Phrasebook

/-- The greatest distance of a suggestion: one edit for a name of at most three bytes, two for a
longer one. -/
def suggestionRadius (name : String) : Nat :=
  if name.utf8ByteSize ≤ 3 then 1 else 2

/-- The order of suggestions: by distance, then by text. -/
def suggestionLE (a b : Nat × String) : Bool :=
  a.1 < b.1 || (a.1 == b.1 && decide (a.2 ≤ b.2))

/-- The names that come near a name without being equal to it. -/
def suggestions (name : String) (available : List String) : List String :=
  let near := available.filterMap fun candidate =>
    let distance := Text.editDistance name.toList candidate.toList
    if 0 < distance ∧ distance ≤ suggestionRadius name then some (distance, candidate) else none
  ((near.mergeSort suggestionLE).take 3).map (·.2)

end Phrasebook
