/-!
# Dotted keys

A key names a place in a tree by the names on the way to it, with dots between them.
-/

namespace Phrasebook.Text

/-- The parts of a text between the occurrences of a character. -/
def splitAt (c : Char) (s : String) : List String :=
  (s.toList.splitOn c).map String.ofList

/-- The names that a dotted key consists of. -/
def names (key : String) : List String :=
  splitAt '.' key

/-- The dotted key of a name below a parent; below the root it is the name itself. -/
def below (parent name : String) : String :=
  if parent.isEmpty then name else parent ++ "." ++ name

/-- Texts with dots between them. -/
def dotted (names : List String) : String :=
  ".".intercalate names

theorem all_ne_of_notMem {c : Char} {cs : List Char} (h : c ∉ cs) :
    ∀ x ∈ cs, decide (x ≠ c) = true := by
  intro x hx
  rw [decide_eq_true_iff]
  rintro rfl
  exact h hx

/-- The first occurrence of a character ends what stands in front of it. -/
theorem takeWhile_ne_append {c : Char} {front : List Char} (h : c ∉ front) (back : List Char) :
    (front ++ c :: back).takeWhile (· ≠ c) = front := by
  rw [List.takeWhile_append_of_pos (all_ne_of_notMem h)]
  simp

theorem dropWhile_ne_append {c : Char} {front : List Char} (h : c ∉ front) (back : List Char) :
    (front ++ c :: back).dropWhile (· ≠ c) = c :: back := by
  rw [List.dropWhile_append_of_pos (all_ne_of_notMem h)]
  simp

/-- **Parts without a character survive** being joined with it and taken apart again. -/
theorem splitAt_intercalate (c : Char) {parts : List String} (h : ∀ p ∈ parts, c ∉ p.toList)
    (hne : parts ≠ []) : splitAt c ((String.singleton c).intercalate parts) = parts := by
  have hsplit : ([c].intercalate (parts.map String.toList)).splitOn c = parts.map String.toList :=
    List.splitOn_intercalate c (by simpa using h) (by simpa using hne)
  rw [splitAt, String.toList_intercalate, String.toList_singleton, hsplit, List.map_map]
  simp

/-- A text is taken apart at a character by taking both sides of it apart. -/
theorem splitAt_append (c : Char) (a b : String) :
    splitAt c (a ++ String.singleton c ++ b) = splitAt c a ++ splitAt c b := by
  have hsplit : (a.toList ++ c :: b.toList).splitOn c = a.toList.splitOn c ++ b.toList.splitOn c :=
    List.splitOnP_append_cons _ _ (by simp)
  rw [splitAt, splitAt, splitAt, ← List.map_append, ← hsplit]
  simp

/-- A text without a character is not taken apart at it. -/
theorem splitAt_eq_singleton {c : Char} {s : String} (h : c ∉ s.toList) : splitAt c s = [s] := by
  have hsplit : splitAt c ((String.singleton c).intercalate [s]) = [s] :=
    splitAt_intercalate c (by simpa using h) (List.cons_ne_nil _ _)
  rwa [String.intercalate_singleton] at hsplit

/-- **Names without dots survive** being put into one key and taken apart again. -/
theorem names_dotted {keys : List String} (hdots : ∀ k ∈ keys, '.' ∉ k.toList) (hne : keys ≠ []) :
    names (dotted keys) = keys :=
  splitAt_intercalate '.' hdots hne

end Phrasebook.Text
