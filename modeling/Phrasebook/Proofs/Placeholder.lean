import Mathlib.Data.List.TakeWhile
import Phrasebook.Placeholder
import Phrasebook.Text.Dotted

/-!
# Where placeholders stand

The scan of `Phrasebook.Placeholder` goes through a text once and never looks back. This file says
what it finds in terms of the text alone.

**Occurrences** (`Occurs`). A placeholder occurs in a text when the placeholder of some name is a
run of its characters, wherever it begins and whatever stands around it.

**The test at one place** (`start?_eq_some_iff`). The name that a text starts with is the name of
the one placeholder that is a prefix of the text: a name has no closing brace, so it ends at the
first one.

Main result: `find_eq_nil_iff`. The scan finds nothing exactly when no placeholder occurs.
-/

namespace Phrasebook.Placeholder

/-- What may stand between the braces: one or more characters other than a closing brace. -/
def IsName (name : List Char) : Prop :=
  name ≠ [] ∧ '}' ∉ name

instance (name : List Char) : Decidable (IsName name) := by
  unfold IsName; infer_instance

/-- A placeholder stands somewhere in a text. -/
def Occurs (cs : List Char) : Prop :=
  ∃ name, IsName name ∧ ofName name <:+: cs

/-! ## The test at one place -/

/-- **A text starts with one placeholder at most**, and the test gives its name. -/
theorem start?_eq_some_iff {cs name : List Char} :
    start? cs = some name ↔ IsName name ∧ ofName name <+: cs := by
  constructor
  · intro h
    unfold start? at h
    split at h
    · next more =>
      dsimp only at h
      split at h
      · next post hpost =>
        split at h
        · cases h
        · next hne =>
          obtain rfl := Option.some.inj h
          -- The name is what stands before the first closing brace.
          have hname : '}' ∉ more.takeWhile (· ≠ '}') := by
            intro hmem
            simpa using List.mem_takeWhile_imp hmem
          refine ⟨⟨by simpa using hne, hname⟩, post, ?_⟩
          have hmore := List.takeWhile_append_dropWhile (p := (· ≠ '}')) (l := more)
          rw [hpost] at hmore
          simp only [ofName, List.cons_append, List.append_assoc, List.nil_append, hmore]
      · cases h
    · cases h
  · rintro ⟨⟨hne, hbrace⟩, post, rfl⟩
    show start? ('{' :: '{' :: (name ++ ['}', '}'] ++ post)) = some name
    simp only [start?, List.append_assoc, List.cons_append, List.nil_append,
      Text.takeWhile_ne_append hbrace, Text.dropWhile_ne_append hbrace]
    rw [if_neg (by simpa using hne)]

/-! ## The scan -/

@[simp] theorem not_occurs_nil : ¬ Occurs [] := by
  rintro ⟨name, -, h⟩
  have := List.eq_nil_of_infix_nil h
  simp [ofName] at this

/-- A placeholder begins at the first character or occurs behind it. -/
theorem occurs_cons_iff {c : Char} {cs : List Char} :
    Occurs (c :: cs) ↔ (start? (c :: cs)).isSome ∨ Occurs cs := by
  simp only [Occurs, List.infix_cons_iff, Option.isSome_iff_exists, start?_eq_some_iff]
  constructor
  · rintro ⟨name, hn, hp | hi⟩
    · exact .inl ⟨name, hn, hp⟩
    · exact .inr ⟨name, hn, hi⟩
  · rintro (⟨name, hn, hp⟩ | ⟨name, hn, hi⟩)
    · exact ⟨name, hn, .inl hp⟩
    · exact ⟨name, hn, .inr hi⟩

theorem scan_eq_nil_iff (cs : List Char) : scan 0 cs = [] ↔ ¬ Occurs cs := by
  induction cs with
  | nil => simp [scan, not_occurs_nil]
  | cons c cs ih =>
    rw [scan, occurs_cons_iff]
    cases hs : start? (c :: cs) with
    | some name => simp
    | none => simpa using ih

/-- **The scan misses nothing**: it comes back empty-handed only from a text in which no
placeholder occurs. -/
theorem find_eq_nil_iff (text : String) : find text = [] ↔ ¬ Occurs text.toList := by
  rw [find, tokens, List.map_eq_nil_iff, List.map_eq_nil_iff, scan_eq_nil_iff]

end Phrasebook.Placeholder
