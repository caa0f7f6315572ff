import Mathlib.Data.List.Chain
import Phrasebook.Proofs.NumberWords

/-!
# The order of number words

**Counting** (`counting`). A number is small, or it has thousands, or millions; its words are put
together in the same way (`spelled_thousand`, `spelled_million`).

**Neighbours** (`Follows`). A word for tens comes before a unit or a scale, and the word for hundred
comes behind a unit.

**Scales in a row** (`RunsWithin`). Behind a count that ends with a scale comes another scale. How
many there are in a row is bounded by the size of the number.

**Hundreds and scales** (`continued`, `divided`). Whether another word follows a hundred, and
whether a scale is cut off from the digits of its count, is read off the groups of three digits
(`groups`) and the counts (`counts`).

Main results: `inOrder_spelled`, `runsWithin_spelled`, `continued_spelled`, `divided_spelled`.
-/

namespace Phrasebook.Speech.NumberWord

/-! ## Counting -/

@[simp] theorem spelled_zero : spelled 0 = [] :=
  spelled_of_lt (by decide)

section

variable {m q t r k : Nat}

/-- The parts of a number with thousands. -/
theorem parts_thousand (ht : t < 1000) (hr : r < 1000) : (1000 * t + r) / 1000000 = 0 ∧
    (1000 * t + r) % 1000000 / 1000 = t ∧ (1000 * t + r) % 1000 = r := by
  omega

/-- The parts of a number with millions. -/
theorem parts_million (hq : q < 1000000) : (1000000 * m + q) / 1000000 = m ∧
    (1000000 * m + q) % 1000000 / 1000 = q / 1000 ∧ (1000000 * m + q) % 1000 = q % 1000 := by
  omega

/-- The parts of a number without millions. -/
theorem parts_of_lt (hq : q < 1000000) : q / 1000000 = 0 ∧ q % 1000000 / 1000 = q / 1000 := by
  omega

theorem ne_zero_of_thousand (ht : t ≠ 0) (hn : 1000 * t + r < 1000 * 1000000 ^ k) : k ≠ 0 := by
  rintro rfl
  omega

/-- A number with millions is bounded by one more factor than their count. -/
theorem exists_eq_succ_of_million (hm : m ≠ 0) (hn : 1000000 * m + q < 1000 * 1000000 ^ k) :
    ∃ j, k = j + 1 ∧ m < 1000 * 1000000 ^ j := by
  cases k with
  | zero => omega
  | succ j =>
    rw [Nat.pow_succ] at hn
    exact ⟨j, rfl, by omega⟩

theorem spelled_thousand (ht : t ≠ 0) (ht' : t < 1000) (hr : r < 1000) :
    spelled (1000 * t + r) = chunk t ++ thousand :: chunk r := by
  obtain ⟨hmillions, hthousands, hrest⟩ := parts_thousand ht' hr
  rw [spelled, dif_pos hmillions, hthousands, if_neg ht, hrest]
  simp

theorem spelled_million (hm : m ≠ 0) (hq : q < 1000000) :
    spelled (1000000 * m + q) = spelled m ++ million :: spelled q := by
  obtain ⟨hmillions, hthousands, hrest⟩ := parts_million (m := m) hq
  have hsmall : spelled q = (if q / 1000 = 0 then [] else chunk (q / 1000) ++ [thousand]) ++
      chunk (q % 1000) := by
    rw [spelled, dif_pos (parts_of_lt hq).1, (parts_of_lt hq).2]
    rfl
  conv_lhs => rw [spelled, hmillions, dif_neg hm, hthousands, hrest]
  rw [hsmall]
  simp

end

/-- **Counting**: what holds of all small numbers, of numbers with thousands, and of a number with
millions if it holds of their count and of the rest, holds of every number. -/
@[elab_as_elim]
theorem counting {P : Nat → Prop} (small : ∀ n < 1000, P n)
    (thousands : ∀ t r, t ≠ 0 → t < 1000 → r < 1000 → P (1000 * t + r))
    (millions : ∀ m q, m ≠ 0 → q < 1000000 → P m → P q → P (1000000 * m + q)) (n : Nat) : P n := by
  induction n using Nat.strong_induction_on with
  | _ n ih =>
    by_cases hsmall : n < 1000
    · exact small n hsmall
    · by_cases hthousands : n < 1000000
      · have := thousands (n / 1000) (n % 1000) (by omega) (by omega) (by omega)
        rwa [Nat.div_add_mod] at this
      · have := millions (n / 1000000) (n % 1000000) (by omega) (by omega) (ih _ (by omega))
          (ih _ (by omega))
        rwa [Nat.div_add_mod] at this

/-! ## Kinds of words -/

/-- Whether a word is for one to nine. -/
def isUnit : NumberWord → Bool
  | unit _ => true
  | _ => false

/-- Whether a word is for tens from twenty on. -/
def isTen : NumberWord → Bool
  | ten _ => true
  | _ => false

/-- Whether a word is for thousand or million. -/
def isScale : NumberWord → Bool
  | thousand | million => true
  | _ => false

/-- Whether a word is for one to ninety. -/
def isDigits : NumberWord → Bool
  | unit _ | teen _ | ten _ => true
  | _ => false

theorem ne_hundred_of_isDigits {w : NumberWord} (h : w.isDigits) : w ≠ hundred := by
  rintro rfl
  cases h

theorem isScale_eq_false_of_isDigits {w : NumberWord} (h : w.isDigits) : w.isScale = false := by
  cases w <;> first | rfl | cases h

theorem isDigits_of_mem_belowHundred {n : Nat} {w : NumberWord} (h : w ∈ belowHundred n) :
    w.isDigits := by
  unfold belowHundred at h
  split_ifs at h <;> simp at h
  · exact h ▸ rfl
  · exact h ▸ rfl
  · exact h ▸ rfl
  · rcases h with rfl | rfl <;> rfl

theorem belowHundred_ne_nil {n : Nat} (h : n ≠ 0) : belowHundred n ≠ [] := by
  rw [belowHundred, if_neg h]
  split_ifs <;> exact List.cons_ne_nil _ _

theorem not_isScale_of_mem_chunk {n : Nat} {w : NumberWord} (h : w ∈ chunk n) :
    w.isScale = false := by
  rcases List.mem_append.1 h with h | h
  · split_ifs at h <;> simp at h
    rcases h with rfl | rfl <;> rfl
  · exact isScale_eq_false_of_isDigits (isDigits_of_mem_belowHundred h)

/-! ## Neighbours -/

/-- A word may come behind another one. -/
def Follows (w v : NumberWord) : Prop :=
  (w.isTen → v.isUnit ∨ v.isScale) ∧ (v = hundred → w.isUnit)

/-- A row of words with neighbours that may come behind each other, beginning with digits. -/
structure InOrder (ws : List NumberWord) : Prop where
  chain : ws.IsChain Follows
  head : ∀ w ∈ ws.head?, w.isDigits

theorem InOrder.append_scale {xs ys : List NumberWord} {s : NumberWord} (hx : InOrder xs)
    (hxs : xs ≠ []) (hs : s.isScale) (hy : InOrder ys) : InOrder (xs ++ s :: ys) where
  chain := by
    -- A scale may come behind every word, and digits behind every scale.
    have hscale (w : NumberWord) : Follows w s :=
      ⟨fun _ => .inr hs, fun h => by rw [h] at hs; cases hs⟩
    have hten : s.isTen = false := by cases s <;> first | rfl | cases hs
    refine List.isChain_append.2 ⟨hx.chain, List.isChain_cons.2 ⟨fun y hy' => ?_, hy.chain⟩, ?_⟩
    · exact ⟨fun h => absurd (hten.symm.trans h) Bool.false_ne_true,
        fun h => absurd h (ne_hundred_of_isDigits (hy.head y hy'))⟩
    · rintro w - v hv
      rw [List.head?_cons, Option.mem_some_iff] at hv
      exact hv ▸ hscale w
  head := by
    obtain ⟨x, xs, rfl⟩ := List.exists_cons_of_ne_nil hxs
    exact hx.head

theorem inOrder_belowHundred (n : Nat) : InOrder (belowHundred n) where
  chain := by
    unfold belowHundred
    split_ifs <;> simp [Follows, isTen, isUnit]
  head w hw := isDigits_of_mem_belowHundred (List.mem_of_mem_head? hw)

theorem inOrder_chunk (n : Nat) : InOrder (chunk n) := by
  have hbelow := inOrder_belowHundred (n % 100)
  unfold chunk
  split_ifs
  · exact hbelow
  · refine ⟨?_, by simp [isDigits]⟩
    refine List.isChain_cons_cons.2 ⟨by simp [Follows, isTen, isUnit],
      List.isChain_cons.2 ⟨?_, hbelow.chain⟩⟩
    intro w hw
    exact ⟨by simp [isTen], fun h => absurd h (ne_hundred_of_isDigits (hbelow.head w hw))⟩

theorem chunk_ne_nil {n : Nat} (h : n ≠ 0) : chunk n ≠ [] := by
  unfold chunk
  split_ifs with hzero
  · exact belowHundred_ne_nil (by omega)
  · exact List.cons_ne_nil _ _

/-- **The words of a number are in order.** -/
theorem inOrder_spelled (n : Nat) : InOrder (spelled n) := by
  induction n using counting with
  | small n hn =>
    rw [spelled_of_lt hn]
    exact inOrder_chunk n
  | thousands t r ht ht' hr =>
    rw [spelled_thousand ht ht' hr]
    exact (inOrder_chunk t).append_scale (chunk_ne_nil ht) rfl (inOrder_chunk r)
  | millions m q hm hq ihm ihq =>
    rw [spelled_million hm hq]
    exact ihm.append_scale (spelled_ne_nil hm) rfl ihq

/-! ## Scales in a row -/

/-- The number of scales at the end, if `run` of them come before. -/
def trail (run : Nat) (ws : List NumberWord) : Nat :=
  ws.foldl (fun run w => if w.isScale then run + 1 else 0) run

/-- There are never more than `limit` scales in a row, if `run` of them come before. -/
def RunsWithin (limit : Nat) : (run : Nat) → List NumberWord → Prop
  | _, [] => True
  | run, w :: ws =>
    if w.isScale then run < limit ∧ RunsWithin limit (run + 1) ws else RunsWithin limit 0 ws

section

variable {limit limit' run run' : Nat} {xs ys : List NumberWord}

theorem trail_append : trail run (xs ++ ys) = trail (trail run xs) ys :=
  List.foldl_append

theorem runsWithin_append : RunsWithin limit run (xs ++ ys) ↔
    RunsWithin limit run xs ∧ RunsWithin limit (trail run xs) ys := by
  induction xs generalizing run with
  | nil => exact (and_iff_right trivial).symm
  | cons x xs ih =>
    rw [List.cons_append, RunsWithin, RunsWithin, trail, List.foldl_cons]
    split_ifs
    · rw [ih, and_assoc]
      rfl
    · exact ih

theorem RunsWithin.mono (h : RunsWithin limit run xs) (hlimit : limit ≤ limit')
    (hrun : run' ≤ run) : RunsWithin limit' run' xs := by
  induction xs generalizing run run' with
  | nil => trivial
  | cons x xs ih =>
    rw [RunsWithin] at h ⊢
    split_ifs at h ⊢
    · exact ⟨by omega, ih h.2 (Nat.succ_le_succ hrun)⟩
    · exact ih h (Nat.le_refl 0)

theorem RunsWithin.tail {w : NumberWord} (h : RunsWithin limit run (w :: xs)) :
    RunsWithin limit 0 xs := by
  rw [RunsWithin] at h
  split_ifs at h
  · exact h.2.mono (Nat.le_refl limit) (Nat.zero_le _)
  · exact h

theorem RunsWithin.tail_of_isScale {w : NumberWord} (h : RunsWithin limit run (w :: xs))
    (hw : w.isScale) : run < limit ∧ RunsWithin limit (run + 1) xs := by
  rwa [RunsWithin, if_pos hw] at h

theorem runsWithin_of_not_isScale (h : ∀ w ∈ xs, w.isScale = false) : RunsWithin limit run xs := by
  induction xs generalizing run with
  | nil => trivial
  | cons x xs ih =>
    rw [RunsWithin, if_neg (by simp [h x List.mem_cons_self])]
    exact ih fun w hw => h w (List.mem_cons_of_mem x hw)

theorem trail_le_of_not_isScale (h : ∀ w ∈ xs, w.isScale = false) : trail run xs ≤ run := by
  induction xs generalizing run with
  | nil => exact Nat.le_refl run
  | cons x xs ih =>
    rw [trail, List.foldl_cons, if_neg (by simp [h x List.mem_cons_self])]
    exact (ih fun w hw => h w (List.mem_cons_of_mem x hw)).trans (Nat.zero_le run)

theorem trail_eq_zero_of_not_isScale (h : ∀ w ∈ xs, w.isScale = false) (hne : xs ≠ []) :
    trail run xs = 0 := by
  obtain ⟨x, xs, rfl⟩ := List.exists_cons_of_ne_nil hne
  rw [trail, List.foldl_cons, if_neg (by simp [h x List.mem_cons_self])]
  exact Nat.le_zero.1 (trail_le_of_not_isScale fun w hw => h w (List.mem_cons_of_mem x hw))

end

/-- **Scales in a row**: a number below `1000 * 1000000 ^ k` has at most `k` of them. -/
theorem runsWithin_spelled {n k : Nat} (run : Nat) (hn : n < 1000 * 1000000 ^ k) :
    RunsWithin k run (spelled n) ∧ (n ≠ 0 → trail run (spelled n) ≤ k) := by
  induction n using counting generalizing k run with
  | small n hsmall =>
    rw [spelled_of_lt hsmall]
    refine ⟨runsWithin_of_not_isScale fun _ => not_isScale_of_mem_chunk, fun hne => ?_⟩
    rw [trail_eq_zero_of_not_isScale (fun _ => not_isScale_of_mem_chunk) (chunk_ne_nil hne)]
    exact Nat.zero_le k
  | thousands t r ht ht' hr =>
    have hk := ne_zero_of_thousand ht hn
    -- The count ends with digits, so the row of scales begins anew with `thousand`.
    have hcount : trail run (chunk t) = 0 :=
      trail_eq_zero_of_not_isScale (fun _ => not_isScale_of_mem_chunk) (chunk_ne_nil ht)
    have hrest : trail 1 (chunk r) ≤ 1 := trail_le_of_not_isScale fun _ => not_isScale_of_mem_chunk
    rw [spelled_thousand ht ht' hr, runsWithin_append, trail_append, hcount]
    exact ⟨⟨runsWithin_of_not_isScale fun _ => not_isScale_of_mem_chunk, Nat.pos_of_ne_zero hk,
      runsWithin_of_not_isScale fun _ => not_isScale_of_mem_chunk⟩,
      fun _ => hrest.trans (Nat.one_le_iff_ne_zero.2 hk)⟩
  | millions m q hm hq ihm ihq =>
    obtain ⟨k, rfl, hm'⟩ := exists_eq_succ_of_million hm hn
    have hq' : q < 1000 * 1000000 ^ (k + 1) := by omega
    obtain ⟨hcount, htrail⟩ := ihm run hm'
    -- The scales at the end of the count and `million` itself come before the rest.
    obtain ⟨hrest, htrail'⟩ := ihq (trail run (spelled m) + 1) hq'
    have htrail := htrail hm
    rw [spelled_million hm hq, runsWithin_append, trail_append]
    refine ⟨⟨hcount.mono k.le_succ (Nat.le_refl run), Nat.lt_succ_of_le htrail, hrest⟩, fun _ => ?_⟩
    show trail (trail run (spelled m) + 1) (spelled q) ≤ k + 1
    by_cases hzero : q = 0
    · rw [hzero, spelled_zero]
      exact Nat.succ_le_succ htrail
    · exact htrail' hzero

theorem length_chunk_le (n : Nat) : (chunk n).length ≤ 4 := by
  have hbelow (n : Nat) : (belowHundred n).length ≤ 2 := by
    unfold belowHundred
    split_ifs <;> simp
  rw [chunk, List.length_append]
  have := hbelow (n % 100)
  split_ifs
  · rw [List.length_nil]
    omega
  · rw [List.length_cons, List.length_cons, List.length_nil]
    omega

theorem length_spelled_le_nine {n : Nat} (hn : n < 1000000) : (spelled n).length ≤ 9 := by
  by_cases hsmall : n < 1000
  · rw [spelled_of_lt hsmall]
    exact (length_chunk_le n).trans (by decide)
  · have := length_chunk_le (n / 1000)
    have := length_chunk_le (n % 1000)
    rw [← Nat.div_add_mod n 1000, spelled_thousand (by omega) (by omega) (by omega),
      List.length_append, List.length_cons]
    omega

/-- **The number of words** of a number below `1000 * 1000000 ^ k`. -/
theorem length_spelled_le {n k : Nat} (hn : n < 1000 * 1000000 ^ k) :
    (spelled n).length ≤ 10 * k + 4 := by
  induction n using counting generalizing k with
  | small n hsmall =>
    rw [spelled_of_lt hsmall]
    exact (length_chunk_le n).trans (Nat.le_add_left 4 _)
  | thousands t r ht ht' hr =>
    have hk := ne_zero_of_thousand ht hn
    have := length_chunk_le t
    have := length_chunk_le r
    rw [spelled_thousand ht ht' hr, List.length_append, List.length_cons]
    omega
  | millions m q hm hq ihm ihq =>
    obtain ⟨k, rfl, hm'⟩ := exists_eq_succ_of_million hm hn
    have := ihm hm'
    have := length_spelled_le_nine hq
    rw [spelled_million hm hq, List.length_append, List.length_cons]
    omega

/-! ## Hundreds -/

/-- For each word for hundred whether another word follows. After the last word another one follows
with `more`. -/
def continued (more : Bool) : List NumberWord → List Bool
  | [] => []
  | w :: ws => if w = hundred then (!ws.isEmpty || more) :: continued more ws else continued more ws

/-- The groups of three digits of a number, each with whether it counts thousands or millions. Those
of a count of millions come first. The last group counts something with `scaled`. -/
def groups (scaled : Bool) (n : Nat) : List (Nat × Bool) :=
  (if _h : n / 1000000 = 0 then [] else groups true (n / 1000000)) ++
  (if n % 1000000 / 1000 = 0 then [] else [(n % 1000000 / 1000, true)]) ++
  [(n % 1000, scaled)]
termination_by n
decreasing_by omega

/-- For each group with hundreds whether more is said behind the word for hundred. -/
def beyondHundreds (gs : List (Nat × Bool)) : List Bool :=
  (gs.filter fun (c, _) => 100 ≤ c).map fun (c, scaled) => c % 100 != 0 || scaled

theorem continued_append (more : Bool) (xs ys : List NumberWord) :
    continued more (xs ++ ys) = continued (!ys.isEmpty || more) xs ++ continued more ys := by
  induction xs with
  | nil => rfl
  | cons x xs ih =>
    rw [List.cons_append, continued, continued, ih]
    have hmore : (!(xs ++ ys).isEmpty || more) = (!xs.isEmpty || (!ys.isEmpty || more)) := by
      cases xs <;> rfl
    rw [hmore]
    split_ifs <;> rfl

theorem continued_eq_nil {more : Bool} {ws : List NumberWord} (h : hundred ∉ ws) :
    continued more ws = [] := by
  induction ws with
  | nil => rfl
  | cons w ws ih =>
    have hw : w ≠ hundred := fun hw => h (hw ▸ List.mem_cons_self)
    rw [continued, if_neg hw, ih fun hws => h (List.mem_cons_of_mem w hws)]

theorem hundred_notMem_belowHundred (n : Nat) : hundred ∉ belowHundred n := fun h =>
  absurd (isDigits_of_mem_belowHundred h) Bool.false_ne_true

theorem continued_chunk (more : Bool) {n : Nat} (hn : n < 1000) :
    continued more (chunk n) = beyondHundreds [(n, more)] := by
  have hbelow : continued more (belowHundred (n % 100)) = [] :=
    continued_eq_nil (hundred_notMem_belowHundred _)
  have hempty : (belowHundred (n % 100)).isEmpty = (n % 100 == 0) := by
    by_cases hzero : n % 100 = 0
    · rw [hzero]
      rfl
    · rw [beq_false_of_ne hzero, List.isEmpty_eq_false_iff]
      exact belowHundred_ne_nil hzero
  rw [chunk, beyondHundreds]
  split_ifs with hzero
  · rw [List.nil_append, hbelow, List.filter_cons_of_neg (by simp; omega)]
    rfl
  · rw [List.filter_cons_of_pos (by simp; omega)]
    show (!(belowHundred (n % 100)).isEmpty || more) :: continued more (belowHundred (n % 100)) = _
    rw [hbelow, hempty]
    rfl

@[simp] theorem beyondHundreds_append (gs hs : List (Nat × Bool)) :
    beyondHundreds (gs ++ hs) = beyondHundreds gs ++ beyondHundreds hs := by
  rw [beyondHundreds, List.filter_append, List.map_append]
  rfl

section

variable {m q t r n : Nat} {scaled : Bool}

theorem groups_of_lt (hn : n < 1000) : groups scaled n = [(n, scaled)] := by
  rw [groups, dif_pos (by omega), if_pos (by omega), Nat.mod_eq_of_lt hn]
  rfl

theorem groups_thousand (ht : t ≠ 0) (ht' : t < 1000) (hr : r < 1000) :
    groups scaled (1000 * t + r) = [(t, true), (r, scaled)] := by
  obtain ⟨hmillions, hthousands, hrest⟩ := parts_thousand ht' hr
  rw [groups, dif_pos hmillions, hthousands, if_neg ht, hrest]
  rfl

theorem groups_million (hm : m ≠ 0) (hq : q < 1000000) :
    groups scaled (1000000 * m + q) = groups true m ++ groups scaled q := by
  obtain ⟨hmillions, hthousands, hrest⟩ := parts_million (m := m) hq
  have hsmall : groups scaled q = (if q / 1000 = 0 then [] else [(q / 1000, true)]) ++
      [(q % 1000, scaled)] := by
    rw [groups, dif_pos (parts_of_lt hq).1, (parts_of_lt hq).2]
    rfl
  conv_lhs => rw [groups, hmillions, dif_neg hm, hthousands, hrest]
  rw [hsmall, List.append_assoc]

end

/-- **Whether another word follows a hundred** is read off the groups of the number. -/
theorem continued_spelled (more : Bool) (n : Nat) :
    continued more (spelled n) = beyondHundreds (groups more n) := by
  induction n using counting generalizing more with
  | small n hsmall => rw [spelled_of_lt hsmall, groups_of_lt hsmall, continued_chunk more hsmall]
  | thousands t r ht ht' hr =>
    have hgroups : groups more (1000 * t + r) = [(t, true)] ++ [(r, more)] :=
      groups_thousand ht ht' hr
    rw [spelled_thousand ht ht' hr, hgroups, continued_append, beyondHundreds_append,
      ← continued_chunk more hr]
    exact congrArg (· ++ _) (continued_chunk true ht')
  | millions m q hm hq ihm ihq =>
    rw [spelled_million hm hq, groups_million hm hq, continued_append, beyondHundreds_append,
      ← ihq more]
    exact congrArg (· ++ _) (ihm true)

/-! ## Scales -/

/-- Whether a word is not for digits. -/
def isMultiplier : NumberWord → Bool
  | hundred | thousand | million => true
  | _ => false

/-- For each scale whether the word before it is another multiplier. -/
def divided (last : Option NumberWord) : List NumberWord → List Bool
  | [] => []
  | w :: ws =>
    if w.isScale then last.any isMultiplier :: divided (some w) ws else divided (some w) ws

/-- The counts of thousands and millions of a number, in the order in which they are said. -/
def counts (n : Nat) : List Nat :=
  (if _h : n / 1000000 = 0 then [] else counts (n / 1000000) ++ [n / 1000000]) ++
  (if n % 1000000 / 1000 = 0 then [] else [n % 1000000 / 1000])
termination_by n
decreasing_by omega

theorem getLast?_or {last : Option NumberWord} {xs : List NumberWord} (hxs : xs ≠ []) :
    xs.getLast?.or last = xs.getLast? := by
  rw [List.getLast?_eq_some_getLast hxs]
  rfl

theorem divided_append (last : Option NumberWord) (xs ys : List NumberWord) :
    divided last (xs ++ ys) = divided last xs ++ divided (xs.getLast?.or last) ys := by
  induction xs generalizing last with
  | nil => rfl
  | cons x xs ih =>
    have hlast : xs.getLast?.or (some x) = (x :: xs).getLast?.or last := by
      cases xs with
      | nil => rfl
      | cons y xs =>
        rw [List.getLast?_cons_cons, getLast?_or (List.cons_ne_nil y xs),
          getLast?_or (List.cons_ne_nil y xs)]
    rw [List.cons_append, divided, divided, ih, hlast]
    split_ifs <;> rfl

theorem divided_eq_nil {last : Option NumberWord} {ws : List NumberWord}
    (h : ∀ w ∈ ws, w.isScale = false) : divided last ws = [] := by
  induction ws generalizing last with
  | nil => rfl
  | cons w ws ih =>
    rw [divided, if_neg (by simp [h w List.mem_cons_self])]
    exact ih fun v hv => h v (List.mem_cons_of_mem w hv)

section

variable {m q t r n : Nat}

theorem counts_of_lt (hn : n < 1000) : counts n = [] := by
  rw [counts, dif_pos (by omega), if_pos (by omega)]
  rfl

theorem counts_thousand (ht : t ≠ 0) (ht' : t < 1000) (hr : r < 1000) :
    counts (1000 * t + r) = [t] := by
  obtain ⟨hmillions, hthousands, -⟩ := parts_thousand ht' hr
  rw [counts, dif_pos hmillions, hthousands, if_neg ht]
  rfl

theorem counts_million (hm : m ≠ 0) (hq : q < 1000000) :
    counts (1000000 * m + q) = counts m ++ m :: counts q := by
  obtain ⟨hmillions, hthousands, -⟩ := parts_million (m := m) hq
  have hsmall : counts q = if q / 1000 = 0 then [] else [q / 1000] := by
    rw [counts, dif_pos (parts_of_lt hq).1, (parts_of_lt hq).2]
    rfl
  conv_lhs => rw [counts, hmillions, dif_neg hm, hthousands]
  rw [hsmall, List.append_assoc]
  rfl

/-- The last word of a count below a thousand multiplies exactly if it is the word for hundred. -/
theorem isMultiplier_getLast?_chunk (hne : n ≠ 0) :
    (chunk n).getLast?.any isMultiplier = decide (n % 100 = 0) := by
  by_cases hzero : n % 100 = 0
  · rw [chunk, if_neg (by omega), hzero]
    rfl
  · have hlast : ∀ w ∈ (belowHundred (n % 100)).getLast?, w.isMultiplier = false := by
      intro w hw
      have := isDigits_of_mem_belowHundred (List.mem_of_getLast? hw)
      cases w <;> first | rfl | cases this
    rw [chunk, List.getLast?_append_of_ne_nil _ (belowHundred_ne_nil hzero)]
    cases hw : (belowHundred (n % 100)).getLast? with
    | none => exact absurd (List.getLast?_eq_none_iff.1 hw) (belowHundred_ne_nil hzero)
    | some w =>
      rw [Option.any_some, hlast w hw, decide_eq_false hzero]

/-- **The last word** of a number multiplies exactly if the number is a multiple of a hundred. -/
theorem isMultiplier_getLast?_spelled (hne : n ≠ 0) :
    (spelled n).getLast?.any isMultiplier = decide (n % 100 = 0) := by
  induction n using counting with
  | small n hsmall =>
    rw [spelled_of_lt hsmall, isMultiplier_getLast?_chunk hne]
  | thousands t r ht ht' hr =>
    have hmod : (1000 * t + r) % 100 = r % 100 := by omega
    rw [spelled_thousand ht ht' hr, List.getLast?_append_of_ne_nil _ (List.cons_ne_nil _ _), hmod]
    by_cases hzero : r = 0
    · rw [hzero]
      rfl
    · rw [List.getLast?_cons_of_ne_nil (chunk_ne_nil hzero), isMultiplier_getLast?_chunk hzero]
  | millions m q hm hq _ ihq =>
    -- Behind `million` the rest decides, unless there is none.
    have hmod : (1000000 * m + q) % 100 = q % 100 := by omega
    rw [spelled_million hm hq, List.getLast?_append_of_ne_nil _ (List.cons_ne_nil _ _), hmod]
    by_cases hzero : q = 0
    · rw [hzero, spelled_zero]
      rfl
    · rw [List.getLast?_cons_of_ne_nil (spelled_ne_nil hzero), ihq hzero]

end

/-- **Whether a multiplier stands before a scale** is read off the counts of the number. -/
theorem divided_spelled (last : Option NumberWord) (n : Nat) :
    divided last (spelled n) = (counts n).map fun c => decide (c % 100 = 0) := by
  induction n using counting generalizing last with
  | small n hsmall =>
    rw [spelled_of_lt hsmall, counts_of_lt hsmall,
      divided_eq_nil fun _ => not_isScale_of_mem_chunk]
    rfl
  | thousands t r ht ht' hr =>
    rw [spelled_thousand ht ht' hr, counts_thousand ht ht' hr, divided_append,
      divided_eq_nil fun _ => not_isScale_of_mem_chunk, getLast?_or (chunk_ne_nil ht),
      List.nil_append]
    show (chunk t).getLast?.any isMultiplier :: divided (some thousand) (chunk r) = _
    rw [isMultiplier_getLast?_chunk ht, divided_eq_nil fun _ => not_isScale_of_mem_chunk]
    rfl
  | millions m q hm hq ihm ihq =>
    rw [spelled_million hm hq, counts_million hm hq, divided_append, ihm,
      getLast?_or (spelled_ne_nil hm), List.map_append]
    show _ ++ (spelled m).getLast?.any isMultiplier :: divided (some million) (spelled q) = _
    rw [isMultiplier_getLast?_spelled hm, ihq]
    rfl

/-! ## Groups and counts -/

/-- A group that counts thousands or millions has the last two digits of a count. -/
theorem exists_count_of_mem_groups {n c : Nat} {scaled : Bool} (h : (c, true) ∈ groups scaled n) :
    (∃ k ∈ counts n, k % 100 = c % 100) ∨ scaled ∧ c % 100 = n % 100 := by
  induction n using counting generalizing scaled with
  | small n hsmall =>
    rw [groups_of_lt hsmall, List.mem_singleton, Prod.mk.injEq] at h
    exact .inr ⟨h.2.symm, by rw [h.1]⟩
  | thousands t r ht ht' hr =>
    rw [groups_thousand ht ht' hr, List.mem_pair, Prod.mk.injEq, Prod.mk.injEq] at h
    rw [counts_thousand ht ht' hr]
    rcases h with ⟨rfl, -⟩ | ⟨rfl, hscaled⟩
    · exact .inl ⟨c, List.mem_cons_self, rfl⟩
    · exact .inr ⟨hscaled.symm, by omega⟩
  | millions m q hm hq ihm ihq =>
    rw [groups_million hm hq, List.mem_append] at h
    rw [counts_million hm hq]
    rcases h with h | h
    · rcases ihm h with ⟨k, hk, hmod⟩ | ⟨-, hmod⟩
      · exact .inl ⟨k, List.mem_append_left _ hk, hmod⟩
      · exact .inl ⟨m, List.mem_append_right _ List.mem_cons_self, hmod.symm⟩
    · rcases ihq h with ⟨k, hk, hmod⟩ | ⟨hscaled, hmod⟩
      · exact .inl ⟨k, List.mem_append_right _ (List.mem_cons_of_mem m hk), hmod⟩
      · exact .inr ⟨hscaled, by omega⟩

end Phrasebook.Speech.NumberWord
