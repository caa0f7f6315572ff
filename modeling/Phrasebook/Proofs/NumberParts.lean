import Mathlib.Algebra.Order.Group.Nat
import Mathlib.Tactic.SplitIfs
import Phrasebook.Speech.Words

/-!
# Parts of a number

A number is put together from chunks and words for scales, whatever becomes of them (`scaled`).

**Levels** (`level`, `within`). A large count of millions is put into words inside the number, and
so on. A number of so many digits has no more than so many levels (`within_eq_scaled`): what would
become of a further one makes no difference.

**Parts** (`numberParts`). The chunks and scale words that are asked for, recorded by putting the
number together with each of them standing for itself. Any words for the number are those of its
parts, one after another (`scaled_eq_flatMap`), so what is changed in all of them is changed in the
words (`scaled_map`).

**Range** (`chunk_mem_numberParts`). Only numbers from 1 to 999 are put into words as chunks.
-/

namespace Phrasebook.Speech

variable {α β : Type}

/-! ## Levels -/

/-- One level: the words for a number, when `inner` gives those for a count of millions above
999. -/
def level (chunk : Nat → List α) (thousand million : α) (inner : Nat → List α) (n : Nat) :
    List α :=
  (if n / 1000000 = 0 then []
    else if 1000 ≤ n / 1000000 then inner (n / 1000000) ++ [million]
    else chunk (n / 1000000) ++ [million]) ++
  (if n % 1000000 / 1000 = 0 then [] else chunk (n % 1000000 / 1000) ++ [thousand]) ++
  (if n % 1000 = 0 then [] else chunk (n % 1000))

/-- The words for a number, when no more than so many levels are entered and `beyond` stands for all
further ones. -/
def within (chunk : Nat → List α) (thousand million : α) (beyond : Nat → List α) :
    Nat → Nat → List α
  | 0 => beyond
  | depth + 1 => level chunk thousand million (within chunk thousand million beyond depth)

section

variable {chunk : Nat → List α} {thousand million : α} {inner inner' beyond : Nat → List α}

theorem scaled_eq_level (n : Nat) : scaled chunk thousand million n =
    level chunk thousand million (scaled chunk thousand million) n := by
  rw [scaled]
  rfl

theorem level_congr {n : Nat}
    (h : 1000 ≤ n / 1000000 → inner (n / 1000000) = inner' (n / 1000000)) :
    level chunk thousand million inner n = level chunk thousand million inner' n := by
  unfold level
  by_cases hlarge : 1000 ≤ n / 1000000
  · rw [h hlarge]
  · simp only [if_neg hlarge]

/-- **A number has no more levels than its size asks for.** -/
theorem within_eq_scaled {depth n : Nat} (h : n < 1000 * 1000000 ^ (depth + 1)) :
    within chunk thousand million beyond (depth + 1) n = scaled chunk thousand million n := by
  induction depth generalizing n with
  | zero =>
    rw [within, scaled_eq_level]
    exact level_congr fun hlarge => absurd h (by omega)
  | succ depth ih =>
    rw [within, scaled_eq_level]
    refine level_congr fun _ => ih (Nat.div_lt_of_lt_mul ?_)
    rw [pow_succ] at h
    omega

end

/-- The numbers that are said have no more than three levels. -/
theorem natAbs_lt (n : Int64) : n.toInt.natAbs < 1000 * 1000000 ^ 3 := by
  have hlow := Int64.le_toInt n
  have hhigh := Int64.toInt_lt n
  omega

/-! ## Parts -/

/-- What a number is put together from. -/
inductive NumberPart where
  | chunk (n : Nat)
  | thousand
  | million
  deriving DecidableEq, Repr

/-- What becomes of a part. -/
def NumberPart.say (chunk : Nat → List α) (thousand million : α) : NumberPart → List α
  | .chunk n => chunk n
  | .thousand => [thousand]
  | .million => [million]

/-- The parts of a number, recorded as it is put together. -/
def numberParts (n : Nat) : List NumberPart :=
  scaled (fun k => [.chunk k]) .thousand .million n

/-- **Words for a number are those of its parts**, one after another. -/
theorem scaled_eq_flatMap (chunk : Nat → List α) (thousand million : α) (n : Nat) :
    scaled chunk thousand million n =
      (numberParts n).flatMap (NumberPart.say chunk thousand million) := by
  induction n using Nat.strong_induction_on with
  | _ n ih =>
    rw [numberParts, scaled_eq_level, scaled_eq_level, level, level, List.flatMap_append,
      List.flatMap_append]
    congr 1
    · congr 1
      · split_ifs with hzero hlarge
        · rfl
        · rw [ih _ (by omega), List.flatMap_append]
          rfl
        · simp [NumberPart.say]
      · split_ifs
        · rfl
        · simp [NumberPart.say]
    · split_ifs
      · rfl
      · simp [NumberPart.say]

/-- **What is changed in every part is changed in the words.** -/
theorem scaled_map (f : α → β) (chunk : Nat → List α) (thousand million : α) (n : Nat) :
    scaled (fun k => (chunk k).map f) (f thousand) (f million) n =
      (scaled chunk thousand million n).map f := by
  rw [scaled_eq_flatMap, scaled_eq_flatMap, List.map_flatMap]
  congr 1
  funext part
  cases part <;> rfl

/-! ## Range -/

/-- **Chunks are from 1 to 999.** -/
theorem chunk_mem_numberParts {n k : Nat} (h : .chunk k ∈ numberParts n) : 1 ≤ k ∧ k ≤ 999 := by
  induction n using Nat.strong_induction_on with
  | _ n ih =>
    rw [numberParts, scaled_eq_level, level, List.mem_append, List.mem_append] at h
    -- The chunk belongs to the millions, to the thousands or to what is below.
    rcases h with (h | h) | h
    · split_ifs at h with hzero hlarge
      · exact absurd h List.not_mem_nil
      · rcases List.mem_append.1 h with h | h
        · exact ih _ (by omega) h
        · cases List.mem_singleton.1 h
      · rcases List.mem_append.1 h with h | h
        · cases List.mem_singleton.1 h
          omega
        · cases List.mem_singleton.1 h
    · split_ifs at h with hzero
      · exact absurd h List.not_mem_nil
      · rcases List.mem_append.1 h with h | h
        · cases List.mem_singleton.1 h
          omega
        · cases List.mem_singleton.1 h
    · split_ifs at h with hzero
      · exact absurd h List.not_mem_nil
      · cases List.mem_singleton.1 h
        omega

end Phrasebook.Speech
