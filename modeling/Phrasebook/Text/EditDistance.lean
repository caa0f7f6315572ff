/-!
# Edit distance

The least number of characters to insert, delete or replace to make one text from another.

`editDistance` goes along the second text and keeps one row of distances: entry `j` is the distance
from what was read of the second text to the first `j` characters of the first.
-/

namespace Phrasebook.Text

/-- The next row: `left` is the entry just computed, `diagonal` the entry above it. -/
def nextRow (c : Char) : List Char → Nat → Nat → List Nat → List Nat
  | d :: ds, left, diagonal, above :: row =>
    let entry := min (min (left + 1) (above + 1)) (if c = d then diagonal else diagonal + 1)
    entry :: nextRow c ds entry above row
  | _, _, _, _ => []

/-- The row after one more character of the second text. -/
def stepRow (xs : List Char) (row : List Nat) (c : Char) : List Nat :=
  match row with
  | [] => []
  | first :: rest => (first + 1) :: nextRow c xs (first + 1) first rest

/-- The least number of single-character edits that make `ys` from `xs`. -/
def editDistance (xs ys : List Char) : Nat :=
  (ys.foldl (stepRow xs) (List.range (xs.length + 1))).getLastD 0

end Phrasebook.Text
