import Phrasebook.Entry.Basic

/-!
# Searching rows in order

A search by halving looks at the middle of the part that is left and goes on with one half. In a row
that is in order nothing is lost: where the middle comes before the key, the key does not stand up
to there, and where it comes after the key, the key does not stand from there on.

**Parts** (`Stands`). A key stands in a part of a row, from one place up to another.

Main result: `binSearchContains_iff`. In a row in order the search finds exactly the keys that are
there.
-/

namespace Phrasebook

@[simp] theorem textLT_iff {a b : String} : textLT a b = true ↔ a < b :=
  decide_eq_true_iff

namespace SortedSearch

/-- A key stands in a row at the place `start` or behind it, and before the place `stop`. -/
def Stands (row : Array String) (key : String) (start stop : Nat) : Prop :=
  ∃ i, ∃ h : i < row.size, start ≤ i ∧ i < stop ∧ row[i] = key

variable {row : Array String} {key : String} {start stop middle : Nat}

theorem stands_iff_mem : Stands row key 0 row.size ↔ key ∈ row := by
  rw [Array.mem_iff_getElem]
  constructor
  · rintro ⟨i, hi, -, -, hkey⟩
    exact ⟨i, hi, hkey⟩
  · rintro ⟨i, hi, hkey⟩
    exact ⟨i, hi, Nat.zero_le i, hi, hkey⟩

theorem not_stands_of_le (h : stop ≤ start) : ¬ Stands row key start stop := by
  rintro ⟨i, -, hstart, hstop, -⟩
  omega

section

variable (hrow : row.toList.Pairwise (· ≤ ·))
include hrow

theorem getElem_le {i j : Nat} (hij : i ≤ j) (hj : j < row.size) :
    row[i] ≤ row[j] := by
  rcases Nat.lt_or_eq_of_le hij with hlt | rfl
  · have hle := List.pairwise_iff_getElem.1 hrow i j (Nat.lt_trans hlt hj) hj hlt
    rwa [Array.getElem_toList, Array.getElem_toList] at hle
  · exact String.le_refl _

/-- Behind a place that comes before the key. -/
theorem stands_behind (hmiddle : middle < row.size) (hkey : row[middle] < key)
    (hstart : start ≤ middle) :
    Stands row key start stop ↔ Stands row key (middle + 1) stop := by
  constructor
  · rintro ⟨i, hi, -, hstop, rfl⟩
    refine ⟨i, hi, Nat.lt_of_not_le fun hle => ?_, hstop, rfl⟩
    exact String.not_le.2 hkey (getElem_le hrow hle hmiddle)
  · rintro ⟨i, hi, hbehind, hstop, hfound⟩
    exact ⟨i, hi, by omega, hstop, hfound⟩

/-- Before a place that comes after the key. -/
theorem stands_before (hmiddle : middle < row.size) (hkey : key < row[middle])
    (hstop : middle < stop) :
    Stands row key start stop ↔ Stands row key start middle := by
  constructor
  · rintro ⟨i, hi, hstart, -, rfl⟩
    refine ⟨i, hi, hstart, Nat.lt_of_not_le fun hle => ?_, rfl⟩
    exact String.not_le.2 hkey (getElem_le hrow hle hi)
  · rintro ⟨i, hi, hstart, hbefore, hfound⟩
    exact ⟨i, hi, hstart, by omega, hfound⟩

/-- One part is searched: halves that cannot have the key are left out. -/
theorem binSearchAux_iff (lo : Fin (row.size + 1)) (hi : Fin row.size) (h : lo.1 ≤ hi.1) :
    row.binSearchAux textLT Option.isSome key lo hi h = true ↔
      Stands row key lo.1 (hi.1 + 1) := by
  fun_induction Array.binSearchAux textLT Option.isSome row key lo hi h with
  | case1 lo hi hle m a hbefore hmore _ ih =>
    exact ih.trans (stands_behind hrow (by omega) (textLT_iff.1 hbefore) (by omega)).symm
  | case2 lo hi hle m a hbefore hlast _ =>
    rw [stands_behind hrow (by omega) (textLT_iff.1 hbefore) (by omega)]
    simpa using not_stands_of_le (by omega)
  | case3 lo hi hle m a _ hafter hlast _ =>
    rw [stands_before hrow (by omega) (textLT_iff.1 hafter) (by omega)]
    simpa using not_stands_of_le (by omega)
  | case4 lo hi hle m a _ hafter hmore _ ih =>
    rw [stands_before hrow (by omega) (textLT_iff.1 hafter) (by omega)]
    rwa [show (⟨m - 1, by omega⟩ : Fin row.size).1 + 1 = m by dsimp only; omega] at ih
  | case5 lo hi hle m a hbefore hafter _ =>
    have hfound : row[m] = key :=
      String.le_antisymm (String.not_lt.1 fun h => hafter (textLT_iff.2 h))
        (String.not_lt.1 fun h => hbefore (textLT_iff.2 h))
    simpa using ⟨m, by omega, by omega, by omega, hfound⟩

/-- **The search finds what is there**, in a row that is in order. -/
theorem binSearchContains_iff : row.binSearchContains key textLT = true ↔ key ∈ row := by
  rw [← stands_iff_mem, Array.binSearchContains]
  by_cases hempty : row.size = 0
  · simp [hempty, not_stands_of_le]
  · have hlast : row.size - 1 < row.size := by omega
    simp only [Nat.pos_of_ne_zero hempty, hlast, Nat.zero_le, dite_true, if_true]
    rw [binSearchAux_iff hrow]
    simp only [show row.size - 1 + 1 = row.size by omega]

end

end SortedSearch

end Phrasebook
