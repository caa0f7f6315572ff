import Phrasebook.Text.Ranges

/-!
# Blanks

The Unicode property `White_Space`, and the removal of blanks around a text.
-/

namespace Phrasebook.Text

/-- The ranges of code points that have the property `White_Space`. -/
def blankRanges : List (Nat × Nat) :=
  [(0x09, 0x0D), (0x20, 0x20), (0x85, 0x85), (0xA0, 0xA0), (0x1680, 0x1680), (0x2000, 0x200A),
   (0x2028, 0x2029), (0x202F, 0x202F), (0x205F, 0x205F), (0x3000, 0x3000)]

/-- A character that counts as white space. -/
def isBlank (c : Char) : Bool :=
  inRanges blankRanges c.toNat

/-- Characters without the blanks at both ends. -/
def trimBlanks (cs : List Char) : List Char :=
  ((cs.dropWhile isBlank).reverse.dropWhile isBlank).reverse

/-- A text without the blanks at both ends. -/
def trim (s : String) : String :=
  String.ofList (trimBlanks s.toList)

theorem dropWhile_isBlank {cs : List Char} (h : ∀ c ∈ cs.head?, isBlank c = false) :
    cs.dropWhile isBlank = cs := by
  cases cs with
  | nil => rfl
  | cons c cs => rw [List.dropWhile_cons_of_neg (by simpa using h c rfl)]

/-- Nothing is trimmed from a text without blanks at its ends. -/
theorem trimBlanks_eq_self {cs : List Char} (hfirst : ∀ c ∈ cs.head?, isBlank c = false)
    (hlast : ∀ c ∈ cs.getLast?, isBlank c = false) : trimBlanks cs = cs := by
  rw [trimBlanks, dropWhile_isBlank hfirst, dropWhile_isBlank (by rwa [List.head?_reverse]),
    List.reverse_reverse]

theorem mem_of_mem_trimBlanks {cs : List Char} {c : Char} (h : c ∈ trimBlanks cs) : c ∈ cs := by
  have hback := (List.dropWhile_suffix isBlank).subset (List.mem_reverse.1 h)
  exact (List.dropWhile_suffix isBlank).subset (List.mem_reverse.1 hback)

theorem not_isBlank_of_getLast?_trimBlanks {cs : List Char} {c : Char}
    (h : c ∈ (trimBlanks cs).getLast?) : isBlank c = false := by
  rw [trimBlanks, List.getLast?_reverse] at h
  have hhead := List.head?_dropWhile_not isBlank (cs.dropWhile isBlank).reverse
  rwa [Option.mem_def.1 h] at hhead

theorem not_isBlank_of_head?_trimBlanks {cs : List Char} {c : Char}
    (h : c ∈ (trimBlanks cs).head?) : isBlank c = false := by
  have hfront : trimBlanks cs <+: cs.dropWhile isBlank := by
    rw [trimBlanks, ← List.reverse_suffix, List.reverse_reverse]
    exact List.dropWhile_suffix isBlank
  obtain ⟨back, hback⟩ := hfront
  have hhead := List.head?_dropWhile_not isBlank cs
  rwa [← hback, List.head?_append, Option.mem_def.1 h] at hhead

end Phrasebook.Text
