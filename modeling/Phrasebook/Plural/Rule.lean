import Phrasebook.Plural.Category
import Phrasebook.Quantity

/-!
# Plural rules

A language's rules give each category a condition on the operands of a number. A condition is a
choice of conjunctions of relations; a relation compares an operand, or its remainder, with a list
of numbers and ranges. The first category whose condition holds is the number's category, and
`other` takes what is left.

The operand `n`, the number itself, is compared as a whole number: when the number has a fraction
that is not zero, no relation `n = …` holds and every relation `n ≠ …` does.
-/

namespace Phrasebook.Plural

/-- What a relation looks at: the number, its whole part, count and value of its fraction digits
with or without trailing zeros, and the exponent of a compact notation, which is always zero. -/
inductive Operand where
  | n
  | i
  | v
  | w
  | f
  | t
  | e
  deriving DecidableEq, Repr

/-- The value of an operand, where it is a whole number. -/
def Operand.value? (x : Operands) : Operand → Option Nat
  | .n => if x.kept = 0 then some x.whole else none
  | .i => some x.whole
  | .v => some x.shown
  | .w => some x.kept
  | .f => some x.shownValue
  | .t => some x.keptValue
  | .e => some 0

/-- An operand or its remainder; modulus 0 leaves the operand as it is. -/
structure Term where
  operand : Operand
  modulus : Nat := 0

instance : HMod Term Nat Term := ⟨fun t m => { t with modulus := m }⟩

/-- A range of numbers, ends included. A numeral is the range of one number. -/
structure Span where
  low : Nat
  high : Nat

instance (n : Nat) : OfNat Span n := ⟨⟨n, n⟩⟩

/-- A comparison of a term with ranges. -/
structure Relation where
  term : Term
  negated : Bool
  spans : List Span

namespace Term

/-- The number itself. -/
def n : Term := { operand := .n }

/-- Its whole part. -/
def i : Term := { operand := .i }

/-- The count of its fraction digits. -/
def v : Term := { operand := .v }

/-- The value of its fraction digits. -/
def f : Term := { operand := .f }

/-- The value of its fraction digits without trailing zeros. -/
def t : Term := { operand := .t }

/-- The exponent of a compact notation. -/
def e : Term := { operand := .e }

/-- The term lies in one of the ranges. -/
def within (term : Term) (spans : List Span) : Relation := ⟨term, false, spans⟩

/-- The term lies in none of the ranges. -/
def outside (term : Term) (spans : List Span) : Relation := ⟨term, true, spans⟩

end Term

/-- One of several lists of relations holds throughout. -/
abbrev Condition := List (List Relation)

/-- Conditions in the order in which they are tried. -/
abbrev Rules := List (Category × Condition)

/-- Whether a relation holds of a number. -/
def Relation.holds (r : Relation) (x : Operands) : Bool :=
  let inside :=
    match r.term.operand.value? x with
    | some value =>
      r.spans.any fun s => s.low ≤ value % r.term.modulus && value % r.term.modulus ≤ s.high
    | none => false
  inside != r.negated

/-- Whether a condition holds of a number. -/
def Condition.holds (c : Condition) (x : Operands) : Bool :=
  c.any (·.all (·.holds x))

/-- The category that the rules give to a number. -/
def Rules.category (rules : Rules) (x : Operands) : Category :=
  match rules.find? fun (_, condition) => condition.holds x with
  | some (category, _) => category
  | none => .other

end Phrasebook.Plural
