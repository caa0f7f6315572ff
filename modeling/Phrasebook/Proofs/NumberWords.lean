import Mathlib.Tactic.IntervalCases
import Phrasebook.Proofs.NumberParts

/-!
# Number words

**Words as data** (`NumberWord`). What a number is said with, whatever the language: `spelled n` is
the row of number words of `n`, and a vocabulary turns each of them into its own word
(`allWords_eq`). A row for a count of millions is the row of that count (`spelled_of_lt`), so one
recursion serves small and large numbers. They are the words that are asked for when the number is
put together (`lookups_eq_spelled`).

**Range** (`mem_all_of_mem_spelled`). Only the thirty words that every vocabulary has are used.

**Value** (`Count`). Whoever hears the words one after another keeps a total and a chunk. A scale
word moves what was counted so far into the total.

Main result: `value_spelled`. The words of a number, heard one after another, count to the number.
-/

namespace Phrasebook.Speech

/-- A number word: the word for one to nine, for ten to nineteen, for the tens from twenty on, or
one of the three that multiply. -/
inductive NumberWord where
  | unit (digit : Nat)
  | teen (n : Nat)
  | ten (digit : Nat)
  | hundred
  | thousand
  | million
  deriving DecidableEq, Repr

namespace NumberWord

/-- The number words of a vocabulary. -/
def all : List NumberWord :=
  (List.range' 1 unitCount).map unit ++ (List.range' 10 teenCount).map teen ++
    (List.range' 2 tensCount).map ten ++ [hundred, thousand, million]

/-- The words of a number below a hundred. -/
def belowHundred (n : Nat) : List NumberWord :=
  if n = 0 then []
  else if n < 10 then [unit n]
  else if n < 20 then [teen n]
  else ten (n / 10) :: (if n % 10 = 0 then [] else [unit (n % 10)])

/-- The words of a number below a thousand. -/
def chunk (n : Nat) : List NumberWord :=
  (if n / 100 = 0 then [] else [unit (n / 100), hundred]) ++ belowHundred (n % 100)

/-- The words of a number. -/
def spelled (n : Nat) : List NumberWord :=
  (if _h : n / 1000000 = 0 then [] else spelled (n / 1000000) ++ [million]) ++
  (if n % 1000000 / 1000 = 0 then [] else chunk (n % 1000000 / 1000) ++ [thousand]) ++
  chunk (n % 1000)
termination_by n
decreasing_by omega

theorem spelled_of_lt {n : Nat} (h : n < 1000) : spelled n = chunk n := by
  have hmillions : n / 1000000 = 0 := by omega
  have hthousands : n % 1000000 / 1000 = 0 := by omega
  have hrest : n % 1000 = n := by omega
  rw [spelled, dif_pos hmillions, if_pos hthousands, hrest]
  rfl

/-! ## In a vocabulary -/

/-- The word of a vocabulary for a number word. -/
def inWords (v : Vocabulary) : NumberWord → String
  | unit digit => v.unit digit
  | teen n => v.teen n
  | ten digit => v.ten digit
  | hundred => v.hundred
  | thousand => v.thousand
  | million => v.million

/-- The wording in which each word that is asked for stands for itself. -/
def asked : Wording NumberWord where
  unit := unit
  teen := teen
  ten := ten
  hundred := hundred

/-- The words that are asked for, recorded as a number is put together. -/
def lookups (n : Nat) : List NumberWord :=
  scaled asked.chunk thousand million n

theorem asked_chunk (n : Nat) : asked.chunk n = chunk n :=
  rfl

/-- The recorded words are the words of the number. -/
theorem lookups_eq_spelled (n : Nat) : lookups n = spelled n := by
  induction n using Nat.strong_induction_on with
  | _ n ih =>
    rw [lookups, scaled_eq_level, level, spelled]
    congr 1
    · congr 1
      split_ifs with hzero hlarge
      · rfl
      · rw [← ih _ (by omega), lookups]
      · rw [asked_chunk, spelled_of_lt (by omega)]
    · split_ifs with hzero
      · rw [hzero]
        rfl
      · exact asked_chunk _

variable (v : Vocabulary)

theorem belowHundred_wording (n : Nat) :
    v.wording.belowHundred n = (asked.belowHundred n).map (inWords v) := by
  unfold Wording.belowHundred
  split_ifs <;> rfl

theorem chunk_wording (n : Nat) : v.wording.chunk n = (asked.chunk n).map (inWords v) := by
  rw [Wording.chunk, Wording.chunk, belowHundred_wording, List.map_append]
  split_ifs <;> rfl

theorem allWords_eq_lookups (n : Nat) : v.allWords n = (lookups n).map (inWords v) := by
  have hchunk : v.wording.chunk = fun k => (asked.chunk k).map (inWords v) :=
    funext (chunk_wording v)
  rw [Vocabulary.allWords, hchunk, lookups]
  exact scaled_map (inWords v) asked.chunk thousand million n

/-- **A vocabulary says a number** in its words for the number words. -/
theorem allWords_eq (n : Nat) : v.allWords n = (spelled n).map (inWords v) := by
  rw [allWords_eq_lookups, lookups_eq_spelled]

/-! ## Range -/

theorem mem_all_unit {d : Nat} (h : 1 ≤ d) (h' : d ≤ 9) : unit d ∈ all := by
  interval_cases d <;> decide

theorem mem_all_teen {n : Nat} (h : 10 ≤ n) (h' : n < 20) : teen n ∈ all := by
  interval_cases n <;> decide

theorem mem_all_ten {d : Nat} (h : 2 ≤ d) (h' : d ≤ 9) : ten d ∈ all := by
  interval_cases d <;> decide

theorem mem_all_of_mem_belowHundred {n : Nat} (hn : n < 100) {w : NumberWord}
    (h : w ∈ belowHundred n) : w ∈ all := by
  unfold belowHundred at h
  split_ifs at h with hzero hunit hteen hten
  · exact absurd h List.not_mem_nil
  · obtain rfl := List.mem_singleton.1 h
    exact mem_all_unit (by omega) (by omega)
  · obtain rfl := List.mem_singleton.1 h
    exact mem_all_teen (by omega) hteen
  · obtain rfl := List.mem_singleton.1 h
    exact mem_all_ten (by omega) (by omega)
  · rcases List.mem_cons.1 h with rfl | h
    · exact mem_all_ten (by omega) (by omega)
    · rw [List.mem_singleton.1 h]
      exact mem_all_unit (by omega) (by omega)

theorem mem_all_of_mem_chunk {n : Nat} (hn : n < 1000) {w : NumberWord} (h : w ∈ chunk n) :
    w ∈ all := by
  rcases List.mem_append.1 h with h | h
  · split_ifs at h with hzero
    · exact absurd h List.not_mem_nil
    · rcases List.mem_cons.1 h with rfl | h
      · exact mem_all_unit (by omega) (by omega)
      · rw [List.mem_singleton.1 h]
        decide
  · exact mem_all_of_mem_belowHundred (by omega) h

/-- **Only words of the vocabulary are used.** -/
theorem mem_all_of_mem_spelled {n : Nat} {w : NumberWord} (h : w ∈ spelled n) : w ∈ all := by
  induction n using Nat.strong_induction_on with
  | _ n ih =>
    rw [spelled, List.mem_append, List.mem_append] at h
    rcases h with (h | h) | h
    · split_ifs at h with hzero
      · exact absurd h List.not_mem_nil
      · rcases List.mem_append.1 h with h | h
        · exact ih _ (by omega) h
        · rw [List.mem_singleton.1 h]
          decide
    · split_ifs at h with hzero
      · exact absurd h List.not_mem_nil
      · rcases List.mem_append.1 h with h | h
        · exact mem_all_of_mem_chunk (by omega) h
        · rw [List.mem_singleton.1 h]
          decide
    · exact mem_all_of_mem_chunk (by omega) h

theorem spelled_ne_nil {n : Nat} (h : n ≠ 0) : spelled n ≠ [] := by
  intro hnil
  rw [spelled, List.append_eq_nil_iff, List.append_eq_nil_iff] at hnil
  -- No words at all means that every share of the number is zero.
  obtain ⟨⟨hmillions, hthousands⟩, hrest⟩ := hnil
  have hm : n / 1000000 = 0 := by
    by_contra hne
    rw [dif_neg hne] at hmillions
    exact List.append_ne_nil_of_right_ne_nil _ (List.cons_ne_nil _ _) hmillions
  have ht : n % 1000000 / 1000 = 0 := by
    by_contra hne
    rw [if_neg hne] at hthousands
    exact List.append_ne_nil_of_right_ne_nil _ (List.cons_ne_nil _ _) hthousands
  obtain ⟨hhundreds, hbelow⟩ := List.append_eq_nil_iff.1 hrest
  have hh : n % 1000 / 100 = 0 := by
    by_contra hne
    rw [if_neg hne] at hhundreds
    exact List.cons_ne_nil _ _ hhundreds
  have hb : n % 1000 % 100 = 0 := by
    by_contra hne
    rw [belowHundred, if_neg hne] at hbelow
    split_ifs at hbelow
  omega

end NumberWord

/-! ## Value -/

/-- What was counted so far: a total, and the chunk that has no scale word yet. -/
structure Count where
  total : Nat := 0
  chunk : Nat := 0
  deriving DecidableEq, Repr

namespace Count

open NumberWord

/-- Hear one more word. -/
def hear (c : Count) : NumberWord → Count
  | unit digit => { c with chunk := c.chunk + digit }
  | teen n => { c with chunk := c.chunk + n }
  | ten digit => { c with chunk := c.chunk + 10 * digit }
  | hundred => { c with chunk := c.chunk * 100 }
  | thousand => { total := c.total + 1000 * c.chunk, chunk := 0 }
  | million => { total := (c.total + c.chunk) * 1000000, chunk := 0 }

/-- Hear a row of words. -/
def hearAll (c : Count) (words : List NumberWord) : Count :=
  words.foldl hear c

/-- The number that was counted to. -/
def value (c : Count) : Nat :=
  c.total + c.chunk

@[simp] theorem hearAll_append (c : Count) (xs ys : List NumberWord) :
    c.hearAll (xs ++ ys) = (c.hearAll xs).hearAll ys :=
  List.foldl_append

@[simp] theorem hearAll_belowHundred (c : Count) (n : Nat) :
    c.hearAll (NumberWord.belowHundred n) = { c with chunk := c.chunk + n } := by
  unfold NumberWord.belowHundred
  split_ifs with hzero hunit hteen hten
  · rw [hzero]
    rfl
  · rfl
  · rfl
  · show ({ c with chunk := c.chunk + 10 * (n / 10) } : Count) = _
    rw [show 10 * (n / 10) = n by omega]
  · show ({ c with chunk := c.chunk + 10 * (n / 10) + n % 10 } : Count) = _
    rw [Nat.add_assoc, show 10 * (n / 10) + n % 10 = n by omega]

/-- **A chunk counts for itself** after a scale word. -/
@[simp] theorem hearAll_chunk (t n : Nat) : hearAll { total := t } (NumberWord.chunk n) = ⟨t, n⟩ := by
  rw [NumberWord.chunk, hearAll_append, hearAll_belowHundred]
  split_ifs with hzero
  · show (⟨t, 0 + n % 100⟩ : Count) = ⟨t, n⟩
    rw [show 0 + n % 100 = n by omega]
  · show (⟨t, (0 + n / 100) * 100 + n % 100⟩ : Count) = ⟨t, n⟩
    rw [show (0 + n / 100) * 100 + n % 100 = n by omega]

/-- **The words of a number count to the number.** -/
theorem value_spelled (n : Nat) : (hearAll {} (spelled n)).value = n := by
  induction n using Nat.strong_induction_on with
  | _ n ih =>
    -- The words for millions bring the total along, so the thousands are heard on top of any total.
    have hmillions : hearAll {} (if _h : n / 1000000 = 0 then []
        else spelled (n / 1000000) ++ [million]) = ⟨n / 1000000 * 1000000, 0⟩ := by
      split_ifs with hzero
      · rw [hzero]
        rfl
      · rw [hearAll_append]
        show (⟨(hearAll {} (spelled (n / 1000000))).value * 1000000, 0⟩ : Count) = _
        rw [ih _ (by omega)]
    have hthousands (t : Nat) : hearAll { total := t } (if n % 1000000 / 1000 = 0 then []
        else NumberWord.chunk (n % 1000000 / 1000) ++ [thousand]) =
        ⟨t + 1000 * (n % 1000000 / 1000), 0⟩ := by
      split_ifs with hzero
      · rw [hzero]
        rfl
      · rw [hearAll_append, hearAll_chunk]
        rfl
    rw [spelled, hearAll_append, hearAll_append, hmillions, hthousands, hearAll_chunk]
    show n / 1000000 * 1000000 + 1000 * (n % 1000000 / 1000) + n % 1000 = n
    omega

end Count

end Phrasebook.Speech
