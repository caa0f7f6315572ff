import Phrasebook.Dict
import Phrasebook.Plural.Category

/-!
# Plural forms

The forms of one text by category. The form `other` is always there and stands in for every
category that has none of its own. It is kept beside the dictionary of the other forms, and every
operation that is given one for `other` puts it there.
-/

namespace Phrasebook

/-- A text in the forms that a language tells apart. -/
structure PluralForms where
  other : String
  /-- The forms of the categories before `other`. -/
  forms : Dict Category String := []
  deriving DecidableEq, Repr, Inhabited

namespace PluralForms

/-- The form kept for a category. -/
def get? (f : PluralForms) : Category → Option String
  | .other => some f.other
  | c => f.forms.get? c

/-- The form for zero, if there is one. -/
def zero (f : PluralForms) : Option String :=
  f.get? .zero

/-- Keep `text` as the form for a category. -/
def insert (f : PluralForms) (text : String) : Category → PluralForms
  | .other => { f with other := text }
  | c => { f with forms := f.forms.insert c text }

/-- The form to use for a category. -/
def select (f : PluralForms) (c : Category) : String :=
  (f.get? c).getD f.other

/-- The forms that are kept, in the order of the categories; `other` is the last. -/
def toList (f : PluralForms) : List (Category × String) :=
  f.forms ++ [(.other, f.other)]

/-- Forms from a dictionary, which must have one for `other`. -/
def ofDict? (d : Dict Category String) : Option PluralForms :=
  (d.get? .other).map fun other => { other, forms := d.erase .other }

/-! ## What the operations do to a category -/

theorem get?_of_ne {c : Category} (h : c ≠ .other) (f : PluralForms) :
    f.get? c = f.forms.get? c := by
  cases c <;> first | rfl | exact absurd rfl h

theorem insert_of_ne {c : Category} (h : c ≠ .other) (f : PluralForms) (text : String) :
    f.insert text c = { f with forms := f.forms.insert c text } := by
  cases c <;> first | rfl | exact absurd rfl h

theorem get?_insert (f : PluralForms) (text : String) (c c' : Category) :
    (f.insert text c).get? c' = if c = c' then some text else f.get? c' := by
  by_cases hc : c = .other
  · subst hc
    cases c' <;> rfl
  · rw [insert_of_ne hc]
    by_cases hc' : c' = .other
    · rw [hc', if_neg hc]
      rfl
    · rw [get?_of_ne hc', get?_of_ne hc', Dict.get?_insert]

end PluralForms

end Phrasebook
