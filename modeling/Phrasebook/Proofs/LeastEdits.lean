import Phrasebook.Text.EditDistance

/-!
# Least numbers of edits

**Edits** (`Edit`, `Edited`). One edit inserts, deletes or replaces one character somewhere in a
text. A number of edits may be more than what is needed, since one edit can undo another.

**The recursion** (`levenshtein`). The distance of two texts from the distances without their first
characters. One edit changes it by one at most (`levenshtein_le_of_edit`), so it is the least number
of edits.

**Rows** (`distances`). The row that is kept along the second text has the distances from all starts
of the first text to what was read of the second. There texts grow at their ends, while the
recursion takes characters off at the front; so the row is described by texts turned around, and
edits do not mind that (`Edited.reverse`).

Main result: `editDistance_least`.
-/

namespace Phrasebook.Text

/-! ## Edits -/

/-- One character is inserted, deleted or replaced. -/
inductive Edit : List Char → List Char → Prop
  | insert (c : Char) (xs : List Char) : Edit xs (c :: xs)
  | delete (c : Char) (xs : List Char) : Edit (c :: xs) xs
  | replace (c d : Char) (xs : List Char) : Edit (c :: xs) (d :: xs)
  | behind (c : Char) {xs ys : List Char} : Edit xs ys → Edit (c :: xs) (c :: ys)

/-- A text is made from another one by a number of edits, one after another. -/
inductive Edited : Nat → List Char → List Char → Prop
  | done (xs : List Char) : Edited 0 xs xs
  | step {n : Nat} {xs ys zs : List Char} : Edit xs ys → Edited n ys zs → Edited (n + 1) xs zs

variable {xs ys zs : List Char} {n : Nat}

theorem Edited.behind (c : Char) (h : Edited n xs ys) : Edited n (c :: xs) (c :: ys) := by
  induction h with
  | done xs => exact .done _
  | step hedit _ ih => exact .step (.behind c hedit) ih

theorem edited_to_nil (xs : List Char) : Edited xs.length xs [] := by
  induction xs with
  | nil => exact .done []
  | cons c xs ih => exact .step (.delete c xs) ih

theorem edited_from_nil (ys : List Char) : Edited ys.length [] ys := by
  induction ys with
  | nil => exact .done []
  | cons c ys ih => exact .step (.insert c []) (ih.behind c)

theorem Edited.least {m : Nat} (hm : Edited m xs ys) (hn : Edited n xs ys) :
    Edited (min m n) xs ys := by
  rcases Nat.le_total m n with h | h
  · rwa [Nat.min_eq_left h]
  · rwa [Nat.min_eq_right h]

/-! ## The recursion -/

/-- The distance of two texts, by their first characters. -/
def levenshtein : List Char → List Char → Nat
  | [], ys => ys.length
  | _ :: xs, [] => xs.length + 1
  | c :: xs, d :: ys =>
    min (min (levenshtein xs (d :: ys) + 1) (levenshtein (c :: xs) ys + 1))
      (if d = c then levenshtein xs ys else levenshtein xs ys + 1)
termination_by xs ys => xs.length + ys.length

@[simp] theorem levenshtein_nil_left (ys : List Char) : levenshtein [] ys = ys.length := by
  rw [levenshtein]

@[simp] theorem levenshtein_nil_right (xs : List Char) : levenshtein xs [] = xs.length := by
  cases xs with
  | nil => exact levenshtein_nil_left []
  | cons c xs => rw [levenshtein, List.length_cons]

/-- **Some edits are as many as the distance.** -/
theorem edited_levenshtein (xs ys : List Char) : Edited (levenshtein xs ys) xs ys := by
  fun_induction levenshtein xs ys with
  | case1 ys => exact edited_from_nil ys
  | case2 c xs => exact edited_to_nil (c :: xs)
  | case3 c xs d ys ihdelete ihinsert ihboth =>
    -- One way of editing for each of the three numbers of which the least is taken.
    have hinsert := Edited.step (.insert d (c :: xs)) (ihinsert.behind d)
    have hdelete := Edited.step (.delete c xs) ihdelete
    have hboth : Edited (if d = c then levenshtein xs ys else levenshtein xs ys + 1)
        (c :: xs) (d :: ys) := by
      split
      · next h => exact h ▸ ihboth.behind d
      · exact .step (.replace c d xs) (ihboth.behind d)
    exact (hdelete.least hinsert).least hboth

theorem levenshtein_cons_left_le (c : Char) (xs zs : List Char) :
    levenshtein (c :: xs) zs ≤ levenshtein xs zs + 1 := by
  cases zs with
  | nil => simp [levenshtein_nil_right]
  | cons e zs =>
    rw [levenshtein]
    omega

theorem levenshtein_cons_right_le (xs : List Char) (e : Char) (zs : List Char) :
    levenshtein xs (e :: zs) ≤ levenshtein xs zs + 1 := by
  cases xs with
  | nil => simp [levenshtein_nil_left]
  | cons c xs =>
    rw [levenshtein]
    omega

/-- **One edit changes the distance by one at most.** -/
theorem levenshtein_le_of_edit (h : Edit xs ys) (zs : List Char) :
    levenshtein xs zs ≤ levenshtein ys zs + 1 := by
  induction h generalizing zs with
  | insert c xs =>
    induction zs with
    | nil =>
      simp only [levenshtein_nil_right, List.length_cons]
      omega
    | cons e zs ih =>
      -- The texts agree on nothing, so the bound comes from the longer target and from its rest.
      have hgrow := levenshtein_cons_right_le xs e zs
      rw [levenshtein.eq_3]
      split <;> omega
  | delete c xs => exact levenshtein_cons_left_le c xs zs
  | replace c d xs =>
    induction zs with
    | nil => simp [levenshtein_nil_right]
    | cons e zs ih =>
      rw [levenshtein, levenshtein]
      split <;> split <;> omega
  | @behind c xs ys _ ihedit =>
    induction zs with
    | nil =>
      have := ihedit []
      simp only [levenshtein_nil_right, List.length_cons] at this ⊢
      omega
    | cons e zs ih =>
      -- Each of the three ways for the one text has its counterpart for the other.
      have hwhole := ihedit (e :: zs)
      have hrest := ihedit zs
      rw [levenshtein, levenshtein]
      split <;> omega

/-- **No fewer edits than the distance will do.** -/
theorem levenshtein_le_of_edited (h : Edited n xs ys) : levenshtein xs ys ≤ n := by
  induction h with
  | done xs =>
    induction xs with
    | nil => exact Nat.le_of_eq (levenshtein_nil_left [])
    | cons c xs ih =>
      rw [levenshtein, if_pos rfl]
      omega
  | step hedit _ ih => exact Nat.le_trans (levenshtein_le_of_edit hedit _) (Nat.succ_le_succ ih)

/-! ## Texts turned around -/

theorem Edit.append (h : Edit xs ys) (zs : List Char) : Edit (xs ++ zs) (ys ++ zs) := by
  induction h with
  | insert c xs => exact .insert c _
  | delete c xs => exact .delete c _
  | replace c d xs => exact .replace c d _
  | behind c _ ih => exact .behind c ih

/-- An edit behind a text. -/
theorem Edit.after (h : Edit xs ys) (zs : List Char) : Edit (zs ++ xs) (zs ++ ys) := by
  induction zs with
  | nil => exact h
  | cons c zs ih => exact .behind c ih

theorem Edit.reverse (h : Edit xs ys) : Edit xs.reverse ys.reverse := by
  induction h with
  | insert c xs => simpa using (Edit.insert c []).after xs.reverse
  | delete c xs => simpa using (Edit.delete c []).after xs.reverse
  | replace c d xs => simpa using (Edit.replace c d []).after xs.reverse
  | behind c _ ih => simpa using ih.append [c]

theorem Edited.reverse (h : Edited n xs ys) : Edited n xs.reverse ys.reverse := by
  induction h with
  | done xs => exact .done _
  | step hedit _ ih => exact .step hedit.reverse ih

/-! ## Rows -/

/-- The distances from texts that grow character by character, at their end, to a text. All of them
are turned around: `r` is the first of the growing texts, and `q` the other text. -/
def distances (q r : List Char) : List Char → List Nat
  | [] => [levenshtein r q]
  | d :: ds => levenshtein r q :: distances q (d :: r) ds

theorem distances_eq_cons (q r ds : List Char) :
    distances q r ds = levenshtein r q :: (distances q r ds).tail := by
  cases ds <;> rfl

/-- **The next row** has the distances to a text that is one character longer. -/
theorem nextRow_eq (c : Char) (q r ds : List Char) :
    nextRow c ds (levenshtein r (c :: q)) (levenshtein r q) (distances q r ds).tail =
      (distances (c :: q) r ds).tail := by
  induction ds generalizing r with
  | nil => rfl
  | cons d ds ih =>
    show nextRow c (d :: ds) _ _ (distances q (d :: r) ds) = distances (c :: q) (d :: r) ds
    rw [distances_eq_cons q, distances_eq_cons (c :: q), nextRow, ← ih (d :: r), levenshtein.eq_3]

theorem stepRow_eq (c : Char) (q ds : List Char) :
    stepRow ds (distances q [] ds) c = distances (c :: q) [] ds := by
  have hfirst : levenshtein [] (c :: q) = levenshtein [] q + 1 := by
    simp only [levenshtein_nil_left, List.length_cons]
  rw [distances_eq_cons q, distances_eq_cons (c :: q), stepRow, ← hfirst, nextRow_eq]

theorem foldl_stepRow (ys q ds : List Char) :
    ys.foldl (stepRow ds) (distances q [] ds) = distances (ys.reverse ++ q) [] ds := by
  induction ys generalizing q with
  | nil => rfl
  | cons c ys ih => rw [List.foldl_cons, stepRow_eq, ih, List.reverse_cons, List.append_assoc]; rfl

/-- The first row counts characters. -/
@[simp] theorem distances_nil (r ds : List Char) :
    distances [] r ds = List.range' r.length (ds.length + 1) := by
  induction ds generalizing r with
  | nil => rw [distances, levenshtein_nil_right]; rfl
  | cons d ds ih => rw [distances, levenshtein_nil_right, ih]; rfl

/-- The last entry of a row is the distance from the whole text. -/
theorem getLastD_distances (q r ds : List Char) :
    (distances q r ds).getLastD 0 = levenshtein (ds.reverse ++ r) q := by
  induction ds generalizing r with
  | nil => rfl
  | cons d ds ih =>
    have hne : distances q (d :: r) ds ≠ [] := by
      rw [distances_eq_cons]
      exact List.cons_ne_nil _ _
    have hlast : (distances q r (d :: ds)).getLastD 0 = (distances q (d :: r) ds).getLastD 0 := by
      rw [distances, List.getLastD_eq_getLast?, List.getLastD_eq_getLast?,
        List.getLast?_cons_of_ne_nil hne]
    rw [hlast, ih, List.reverse_cons, List.append_assoc]
    rfl

theorem editDistance_eq (xs ys : List Char) :
    editDistance xs ys = levenshtein xs.reverse ys.reverse := by
  -- The first row counts up, as the distances to the empty text do.
  have hstart : List.range (xs.length + 1) = distances [] [] xs := by
    rw [distances_nil, List.range_eq_range']
    rfl
  rw [editDistance, hstart, foldl_stepRow, getLastD_distances, List.append_nil, List.append_nil]

/-! ## The result -/

/-- **The edit distance is the least number of edits** that make one text from another. -/
theorem editDistance_least (xs ys : List Char) :
    Edited (editDistance xs ys) xs ys ∧ ∀ n, Edited n xs ys → editDistance xs ys ≤ n := by
  rw [editDistance_eq]
  constructor
  · simpa using (edited_levenshtein xs.reverse ys.reverse).reverse
  · exact fun n h => levenshtein_le_of_edited h.reverse

end Phrasebook.Text
