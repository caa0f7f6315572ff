import Phrasebook.Locale

/-!
# The order of locales

Catalogues and remembered files are kept in the order of their locales. The order compares languages
first and regions second, so it tells any two locales apart.
-/

namespace Phrasebook.Locale

theorem compare_eq_then (a b : Locale) :
    compare a b = (compare a.language b.language).then (compare a.region b.region) := by
  show (compare a.language b.language).then ((compare a.region b.region).then .eq) = _
  cases compare a.region b.region <;> rfl

instance : Std.LawfulEqOrd Locale where
  compare_self {a} := by
    rw [compare_eq_then, Ordering.then_eq_eq]
    exact ⟨Std.ReflOrd.compare_self, Std.ReflOrd.compare_self⟩
  eq_of_compare {a b} h := by
    rw [compare_eq_then, Ordering.then_eq_eq] at h
    obtain ⟨hlanguage, hregion⟩ := h
    cases a
    cases b
    obtain rfl := Std.LawfulEqOrd.eq_of_compare hlanguage
    obtain rfl := Std.LawfulEqOrd.eq_of_compare hregion
    rfl

end Phrasebook.Locale
