import Phrasebook.Text.Ranges

/-!
# Sets of characters

A set of characters is kept as ranges of code points that increase and do not touch, so equal sets
have equal ranges. All operations come from two of them: the union and the complement.
-/

namespace Phrasebook.Unicode

/-- A set of characters: the first and the last code point of every range. -/
structure CharSet where
  ranges : List (Nat × Nat)
  deriving DecidableEq, Repr, Inhabited

namespace CharSet

/-- The last code point. -/
def lastCode : Nat := 0x10FFFF

/-- No character. -/
def empty : CharSet := ⟨[]⟩

/-- The characters from one code point to another. -/
def range (low high : Nat) : CharSet := ⟨[(low, high)]⟩

/-- A single character. -/
def single (c : Char) : CharSet := range c.toNat c.toNat

/-- All characters. -/
def all : CharSet := range 0 lastCode

/-- Whether a code point belongs to a set. -/
def hasCode (s : CharSet) (n : Nat) : Bool :=
  Text.inRanges s.ranges n

/-- Whether a character belongs to a set. -/
def has (s : CharSet) (c : Char) : Bool :=
  s.hasCode c.toNat

/-- Join the ranges that overlap or touch; `low` and `high` are the range before the others. -/
def joinFrom (low high : Nat) : List (Nat × Nat) → List (Nat × Nat)
  | [] => [(low, high)]
  | (a, b) :: rest =>
    if a ≤ high + 1 then joinFrom low (max high b) rest else (low, high) :: joinFrom a b rest

/-- The set of ranges that are in order but may overlap. -/
def join : List (Nat × Nat) → CharSet
  | [] => empty
  | (a, b) :: rest => ⟨joinFrom a b rest⟩

/-- The set of ranges in any order. -/
def ofRanges (ranges : List (Nat × Nat)) : CharSet :=
  join (ranges.mergeSort fun a b => a.1 ≤ b.1)

/-- The characters of either set. -/
def union (s t : CharSet) : CharSet :=
  join (s.ranges.merge t.ranges fun a b => a.1 ≤ b.1)

/-- The characters of any of several sets. -/
def unionAll (sets : List CharSet) : CharSet :=
  sets.foldl union empty

/-- The ranges between ranges, from a code point on. -/
def gapsFrom (start : Nat) : List (Nat × Nat) → List (Nat × Nat)
  | [] => if start ≤ lastCode then [(start, lastCode)] else []
  | (low, high) :: rest =>
    if start < low then (start, low - 1) :: gapsFrom (high + 1) rest else gapsFrom (high + 1) rest

/-- The characters that a set leaves out. -/
def compl (s : CharSet) : CharSet :=
  ⟨gapsFrom 0 s.ranges⟩

/-- The characters of both sets. -/
def inter (s t : CharSet) : CharSet :=
  (s.compl.union t.compl).compl

/-- The characters of one set that are not in another. -/
def diff (s t : CharSet) : CharSet :=
  s.inter t.compl

/-- The characters that are in just one of two sets. -/
def symmDiff (s t : CharSet) : CharSet :=
  (s.union t).diff (s.inter t)

/-- A set, or with `negated` its complement. -/
def negateIf (negated : Bool) (s : CharSet) : CharSet :=
  if negated then s.compl else s

end CharSet

end Phrasebook.Unicode
