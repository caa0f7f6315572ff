/-!
# Plural categories

The six names under which a language may keep forms of a text, in their customary order.
-/

namespace Phrasebook

/-- A name for the numbers that take the same form. -/
inductive Category where
  | zero
  | one
  | two
  | few
  | many
  | other
  deriving DecidableEq, Ord, Repr, Inhabited

instance : Std.LawfulEqOrd Category where
  compare_self {c} := by cases c <;> rfl
  eq_of_compare {c c'} h := by cases c <;> cases c' <;> first | rfl | cases h

instance : Std.TransOrd Category where
  eq_swap {c c'} := by cases c <;> cases c' <;> rfl
  isLE_trans {c c' c''} := by cases c <;> cases c' <;> cases c'' <;> decide

namespace Category

/-- All categories in order. -/
def all : List Category :=
  [zero, one, two, few, many, other]

/-- The name of a category. -/
def tag : Category → String
  | zero => "zero"
  | one => "one"
  | two => "two"
  | few => "few"
  | many => "many"
  | other => "other"

/-- The category of a name, which must be spelt exactly. -/
def ofTag? (s : String) : Option Category :=
  all.find? (·.tag = s)

end Category

/-- What a plural category is asked for: how many there are, or the place in a row. -/
inductive PluralKind where
  | cardinal
  | ordinal
  deriving DecidableEq, Ord, Repr, Inhabited

end Phrasebook
