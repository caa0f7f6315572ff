import Phrasebook.Unicode.CharSet

/-!
# Tables of characters

A table has a set of characters under each of its names. The sets are written as rows of numbers, by
turns how many characters are left out and how many more than one are taken. A number is written to
the base 26, with a small letter for its last digit and capital letters for the digits before it.
-/

namespace Phrasebook.Unicode

namespace Table

/-- The numbers that are written in a row; `leading` is what the capital letters since the last small
one stand for. -/
def numbers (leading : Nat) : List Char → List Nat
  | [] => []
  | c :: cs =>
    if 'a' ≤ c then (26 * leading + (c.toNat - 'a'.toNat)) :: numbers 0 cs
    else numbers (26 * leading + (c.toNat - 'A'.toNat)) cs

/-- The ranges that numbers stand for, from a code point on. -/
def rangesFrom (start : Nat) : List Nat → List (Nat × Nat)
  | omitted :: more :: rest =>
    (start + omitted, start + omitted + more) :: rangesFrom (start + omitted + more + 1) rest
  | _ => []

end Table

/-- A set of characters, as it is written in a table. -/
def CharSet.ofCode (code : String) : CharSet :=
  ⟨Table.rangesFrom 0 (Table.numbers 0 code.toList)⟩

/-- A row of a table: the names of a set and its written form. -/
structure Row where
  names : List String
  code : String

/-- The set of a row. -/
def Row.set (row : Row) : CharSet :=
  .ofCode row.code

/-- Rows with different names. -/
abbrev Table := List Row

namespace Table

/-- The row of a name. -/
def row? (table : Table) (name : String) : Option Row :=
  table.find? (·.names.contains name)

/-- The set of a name. -/
def set? (table : Table) (name : String) : Option CharSet :=
  (table.row? name).map Row.set

/-- The set of a name, which is empty if there is none. -/
def setOf (table : Table) (name : String) : CharSet :=
  (table.set? name).getD .empty

end Table

end Phrasebook.Unicode
