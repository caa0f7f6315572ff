import Mathlib.Algebra.GroupWithZero.Nat
import Mathlib.Algebra.Ring.Int.Defs
import Phrasebook.Format.RelativeTime
import Phrasebook.Number.Numeral

/-!
# Splitting time spans

**Shares** (`shares`, `remainder`). The split of a magnitude, without signs and without a bound on
its size. Each unit takes what it can of what is left, so what is left behind it is shorter than the
unit, and only gets shorter: it is in the end shorter than every unit, and no unit takes part twice.

**Words** (`wordSections?`). The same split on words of 64 bits, given up where a step would leave
them: a division by zero, a product or a difference that does not fit, or a count that has to be
replaced by the nearest one that fits. No step does (`splitWords?_eq`), since the magnitude of a span
has room for its sign (`room`) and everything in the split is at most that magnitude.

Main result: `sections_exact`. Shares with the sign of a span are its sections.
-/

namespace Phrasebook

theorem TimeUnit.seconds_pos (u : TimeUnit) : 0 < u.seconds := by
  cases u <;> decide

namespace RelativeTime

open Number (signed)

/-! ## Shares of a magnitude -/

/-- What each unit takes of a magnitude. -/
def shares : Nat → List TimeUnit → List (Nat × TimeUnit)
  | _, [] => []
  | left, u :: rest =>
    if left / u.seconds = 0 then shares left rest
    else (left / u.seconds, u) :: shares (left % u.seconds) rest

/-- What is left of a magnitude behind all units. -/
def remainder (left : Nat) (units : List TimeUnit) : Nat :=
  units.foldl (fun left u => left % u.seconds) left

/-- The magnitude of shares. -/
def magnitude (parts : List (Nat × TimeUnit)) : Nat :=
  (parts.map fun s => s.1 * s.2.seconds).sum

variable {left n : Nat} {u : TimeUnit} {units rest : List TimeUnit} {negative : Bool}

/-- A unit that is too long takes nothing. -/
theorem mod_of_div_eq_zero (h : left / u.seconds = 0) : left % u.seconds = left :=
  Nat.mod_eq_of_lt ((Nat.div_eq_zero_iff_lt u.seconds_pos).1 h)

theorem remainder_cons (left : Nat) (u : TimeUnit) (rest : List TimeUnit) :
    remainder left (u :: rest) = remainder (left % u.seconds) rest :=
  rfl

/-- **Nothing is lost.** -/
theorem magnitude_shares (left : Nat) (units : List TimeUnit) :
    magnitude (shares left units) + remainder left units = left := by
  induction units generalizing left with
  | nil => exact Nat.zero_add left
  | cons u rest ih =>
    rw [shares, remainder_cons]
    split
    · next h => rw [mod_of_div_eq_zero h, ih]
    · have hdivision := Nat.div_add_mod' left u.seconds
      have hrest := ih (left % u.seconds)
      have hfirst : magnitude ((left / u.seconds, u) :: shares (left % u.seconds) rest) =
          left / u.seconds * u.seconds + magnitude (shares (left % u.seconds) rest) :=
        List.sum_cons
      omega

theorem remainder_le (left : Nat) (units : List TimeUnit) : remainder left units ≤ left := by
  have := magnitude_shares left units
  omega

/-- **What is left is shorter than every unit.** -/
theorem remainder_lt (left : Nat) (h : u ∈ units) : remainder left units < u.seconds := by
  induction units generalizing left with
  | nil => cases h
  | cons v rest ih =>
    rw [remainder_cons]
    rcases List.mem_cons.1 h with rfl | h
    · exact Nat.lt_of_le_of_lt (remainder_le _ _) (Nat.mod_lt _ u.seconds_pos)
    · exact ih _ h

theorem sublist_shares (left : Nat) (units : List TimeUnit) :
    ((shares left units).map (·.2)).Sublist units := by
  induction units generalizing left with
  | nil => exact .slnil
  | cons u rest ih =>
    rw [shares]
    split
    · exact (ih left).cons u
    · exact (ih _).cons_cons u

theorem share_ne_zero {s : Nat × TimeUnit} (h : s ∈ shares left units) : s.1 ≠ 0 := by
  induction units generalizing left with
  | nil => cases h
  | cons u rest ih =>
    rw [shares] at h
    split at h
    · exact ih h
    · next hne =>
      rcases List.mem_cons.1 h with rfl | h
      · exact hne
      · exact ih h

/-- A share is no larger than what it is taken from. -/
theorem share_le {s : Nat × TimeUnit} (h : s ∈ shares left units) :
    s.1 * s.2.seconds ≤ left := by
  induction units generalizing left with
  | nil => cases h
  | cons u rest ih =>
    rw [shares] at h
    split at h
    · exact ih h
    · rcases List.mem_cons.1 h with rfl | h
      · exact Nat.div_mul_le_self left u.seconds
      · exact Nat.le_trans (ih h) (Nat.mod_le _ _)

theorem count_le {s : Nat × TimeUnit} (h : s ∈ shares left units) : s.1 ≤ left :=
  Nat.le_trans (Nat.le_mul_of_pos_right _ s.2.seconds_pos) (share_le h)

/-- **No unit takes part twice**: what it leaves is shorter than the unit itself. -/
theorem nodup_shares (left : Nat) (units : List TimeUnit) :
    ((shares left units).map (·.2)).Nodup := by
  induction units generalizing left with
  | nil => exact .nil
  | cons u rest ih =>
    rw [shares]
    split
    · exact ih left
    · refine List.nodup_cons.2 ⟨fun hu => ?_, ih _⟩
      obtain ⟨s, hs, rfl⟩ := List.mem_map.1 hu
      have hlong : s.2.seconds ≤ left % s.2.seconds :=
        Nat.le_trans (Nat.le_mul_of_pos_left _ (Nat.pos_of_ne_zero (share_ne_zero hs)))
          (share_le hs)
      exact absurd (Nat.mod_lt left s.2.seconds_pos) (Nat.not_lt.2 hlong)

/-! ## Signs -/

/-- The greatest magnitude that has room in 64 bits with a sign. -/
def room (negative : Bool) : Nat :=
  if negative then 2 ^ 63 else 2 ^ 63 - 1

/-- Whether a span lies in the past. -/
def isPast (span : Int64) : Bool :=
  span.toInt < 0

theorem isPast_eq_true {span : Int64} (h : span.toInt < 0) : isPast span = true :=
  decide_eq_true h

theorem isPast_eq_false {span : Int64} (h : ¬ span.toInt < 0) : isPast span = false :=
  decide_eq_false h

@[simp] theorem signed_true (n : Nat) : signed true n = -n :=
  rfl

@[simp] theorem signed_false (n : Nat) : signed false n = n :=
  rfl

theorem natAbs_le_room (span : Int64) : span.toInt.natAbs ≤ room (isPast span) := by
  have hlow := span.le_toInt
  have hhigh := span.toInt_lt
  by_cases h : span.toInt < 0
  · rw [isPast_eq_true h]
    show span.toInt.natAbs ≤ 2 ^ 63
    omega
  · rw [isPast_eq_false h]
    show span.toInt.natAbs ≤ 2 ^ 63 - 1
    omega

theorem signed_natAbs (span : Int64) :
    signed (isPast span) span.toInt.natAbs = span.toInt :=
  Number.signed_natAbs span.toInt

theorem signed_bounds (h : n ≤ room negative) :
    Int64.minValue.toInt ≤ signed negative n ∧ signed negative n ≤ Int64.maxValue.toInt := by
  rw [Int64.toInt_minValue, Int64.toInt_maxValue]
  cases negative with
  | false =>
    have h : n ≤ 2 ^ 63 - 1 := h
    rw [signed_false]
    omega
  | true =>
    have h : n ≤ 2 ^ 63 := h
    rw [signed_true]
    omega

/-- **A count that has room is kept as it is.** -/
theorem signedCount_eq (h : n ≤ room negative) :
    signedCount negative n = Int64.ofInt (signed negative n) := by
  obtain ⟨hlow, hhigh⟩ := signed_bounds h
  cases negative with
  | false => exact congrArg Int64.ofInt (Int.min_eq_left hhigh)
  | true => exact congrArg Int64.ofInt (Int.max_eq_left hlow)

theorem toInt_signedCount (h : n ≤ room negative) :
    (signedCount negative n).toInt = signed negative n := by
  obtain ⟨hlow, hhigh⟩ := signed_bounds h
  rw [signedCount_eq h, Int64.toInt_ofInt_of_le hlow (Int.lt_add_one_of_le hhigh)]

/-- **Sections are shares with a sign.** -/
theorem split_eq (negative : Bool) (left : Nat) (units : List TimeUnit) :
    split negative left units =
      (shares left units).map fun s => (signedCount negative s.1, s.2) := by
  induction units generalizing left with
  | nil => rfl
  | cons u rest ih =>
    rw [split, shares]
    split
    · exact ih left
    · rw [ih, List.map_cons]

theorem sections_eq (span : Int64) (units : List TimeUnit) :
    sections span units =
      (shares span.toInt.natAbs units).map fun s => (signedCount (isPast span) s.1, s.2) :=
  split_eq _ _ _

/-- The counts of sections as whole numbers. -/
def counts (parts : List (Int64 × TimeUnit)) : List (Int × TimeUnit) :=
  parts.map fun s => (s.1.toInt, s.2)

theorem counts_sections (span : Int64) (units : List TimeUnit) :
    counts (sections span units) =
      (shares span.toInt.natAbs units).map fun s => (signed (isPast span) s.1, s.2) := by
  rw [sections_eq, counts, List.map_map]
  refine List.map_congr_left fun s hs => ?_
  have hroom := Nat.le_trans (count_le hs) (natAbs_le_room span)
  exact congrArg (·, s.2) (toInt_signedCount hroom)

/-! ## Arithmetic on words -/

/-- The length of a unit as a word. -/
def wordSeconds (u : TimeUnit) : UInt64 :=
  UInt64.ofNat u.seconds

/-- A quotient, if there is one. -/
def quotient? (a b : UInt64) : Option UInt64 :=
  if b = 0 then none else some (a / b)

/-- A product, if it fits. -/
def product? (a b : UInt64) : Option UInt64 :=
  if a.toNat * b.toNat < 2 ^ 64 then some (a * b) else none

/-- A difference, if it is not negative. -/
def difference? (a b : UInt64) : Option UInt64 :=
  if b ≤ a then some (a - b) else none

/-- A count with a sign, if there is room for both. -/
def count? (negative : Bool) (count : UInt64) : Option Int64 :=
  if count.toNat ≤ room negative then some (Int64.ofInt (signed negative count.toNat)) else none

/-- Split a magnitude, if no step leaves the words. -/
def splitWords? (negative : Bool) : UInt64 → List TimeUnit → Option (List (Int64 × TimeUnit))
  | _, [] => some []
  | left, u :: rest => do
    let count ← quotient? left (wordSeconds u)
    if count = 0 then splitWords? negative left rest
    else
      let n ← count? negative count
      let taken ← product? count (wordSeconds u)
      let left ← difference? left taken
      let more ← splitWords? negative left rest
      return (n, u) :: more

/-- Split a span, if no step leaves the words. -/
def wordSections? (span : Int64) (units : List TimeUnit) : Option (List (Int64 × TimeUnit)) :=
  splitWords? (isPast span) (UInt64.ofNat span.toInt.natAbs) units

@[simp] theorem toNat_wordSeconds (u : TimeUnit) : (wordSeconds u).toNat = u.seconds := by
  cases u <;> decide

theorem room_lt (negative : Bool) : room negative < 2 ^ 64 := by
  cases negative <;> decide

variable {word : UInt64}

theorem quotient?_eq (word : UInt64) (u : TimeUnit) :
    quotient? word (wordSeconds u) = some (word / wordSeconds u) := by
  cases u <;> rfl

@[simp] theorem toNat_quotient (word : UInt64) (u : TimeUnit) :
    (word / wordSeconds u).toNat = word.toNat / u.seconds := by
  rw [UInt64.toNat_div, toNat_wordSeconds]

theorem quotient_eq_zero_iff (word : UInt64) (u : TimeUnit) :
    word / wordSeconds u = 0 ↔ word.toNat / u.seconds = 0 := by
  rw [← UInt64.toNat_inj, toNat_quotient]
  rfl

theorem count?_eq (h : word.toNat ≤ room negative) :
    count? negative word = some (signedCount negative word.toNat) := by
  rw [count?, if_pos h, signedCount_eq h]

/-- What a unit takes fits into what was left, and so into a word. -/
theorem exists_taken (word : UInt64) (u : TimeUnit) : ∃ taken after,
    product? (word / wordSeconds u) (wordSeconds u) = some taken ∧
      difference? word taken = some after ∧ after.toNat = word.toNat % u.seconds := by
  have hfits : word.toNat / u.seconds * u.seconds ≤ word.toNat := Nat.div_mul_le_self _ _
  have hproduct : (word / wordSeconds u * wordSeconds u).toNat =
      word.toNat / u.seconds * u.seconds := by
    rw [UInt64.toNat_mul, toNat_quotient, toNat_wordSeconds]
    exact Nat.mod_eq_of_lt (Nat.lt_of_le_of_lt hfits word.toNat_lt)
  have hle : word / wordSeconds u * wordSeconds u ≤ word := by
    rw [UInt64.le_iff_toNat_le, hproduct]
    exact hfits
  refine ⟨_, _, if_pos ?_, if_pos hle, ?_⟩
  · rw [toNat_quotient, toNat_wordSeconds]
    exact Nat.lt_of_le_of_lt hfits word.toNat_lt
  · have hdivision := Nat.div_add_mod' word.toNat u.seconds
    rw [UInt64.toNat_sub_of_le _ _ hle, hproduct]
    omega

/-- **No step leaves the words**, and the result is the split of the magnitude. -/
theorem splitWords?_eq (hword : word.toNat ≤ room negative) (units : List TimeUnit) :
    splitWords? negative word units = some (split negative word.toNat units) := by
  induction units generalizing word with
  | nil => rfl
  | cons u rest ih =>
    rw [splitWords?, quotient?_eq, split]
    show (if word / wordSeconds u = 0 then _ else _) = _
    by_cases hzero : word.toNat / u.seconds = 0
    · rw [if_pos hzero, if_pos ((quotient_eq_zero_iff word u).2 hzero), ih hword]
    · obtain ⟨taken, after, htaken, hafter, hmod⟩ := exists_taken word u
      -- Neither the count nor what is left is larger than the span, so both fit again.
      have hcount : (word / wordSeconds u).toNat ≤ room negative := by
        rw [toNat_quotient]
        exact Nat.le_trans (Nat.div_le_self _ _) hword
      have hleft : after.toNat ≤ room negative := by
        rw [hmod]
        exact Nat.le_trans (Nat.mod_le _ _) hword
      rw [if_neg hzero, if_neg (mt (quotient_eq_zero_iff word u).1 hzero), count?_eq hcount,
        htaken, ← hmod, ← toNat_quotient]
      show (difference? word taken >>= _) = _
      rw [hafter]
      show (splitWords? negative after rest >>= _) = _
      rw [ih hleft]
      rfl

/-- **The split of a span is the split on words.** -/
theorem wordSections?_eq (span : Int64) (units : List TimeUnit) :
    wordSections? span units = some (sections span units) := by
  have hroom := natAbs_le_room span
  have hword : (UInt64.ofNat span.toInt.natAbs).toNat = span.toInt.natAbs :=
    UInt64.toNat_ofNat_of_lt' (Nat.lt_of_le_of_lt hroom (room_lt _))
  rw [wordSections?, splitWords?_eq (by rw [hword]; exact hroom), hword]
  rfl

/-! ## The result -/

/-- The seconds that sections stand for. -/
def seconds (parts : List (Int64 × TimeUnit)) : Int :=
  ((counts parts).map fun s => s.1 * (s.2.seconds : Int)).sum

theorem signed_mul (negative : Bool) (a b : Nat) :
    signed negative a * b = signed negative (a * b) := by
  cases negative with
  | false => exact (Int.natCast_mul a b).symm
  | true =>
    show -(a : Int) * b = -((a * b : Nat) : Int)
    rw [Int.natCast_mul, Int.neg_mul]

theorem signed_add (negative : Bool) (a b : Nat) :
    signed negative (a + b) = signed negative a + signed negative b := by
  cases negative with
  | false => exact Int.natCast_add a b
  | true =>
    show -((a + b : Nat) : Int) = -(a : Int) + -(b : Int)
    omega

theorem natAbs_signed (negative : Bool) (n : Nat) : (signed negative n).natAbs = n := by
  cases negative with
  | false => exact Int.natAbs_natCast n
  | true => exact (Int.natAbs_neg n).trans (Int.natAbs_natCast n)

theorem sum_signed (negative : Bool) (parts : List (Nat × TimeUnit)) :
    (parts.map fun s => signed negative s.1 * (s.2.seconds : Int)).sum =
      signed negative (magnitude parts) := by
  induction parts with
  | nil => cases negative <;> rfl
  | cons s parts ih =>
    rw [List.map_cons, List.sum_cons, ih, signed_mul, ← signed_add]
    rfl

theorem seconds_sections (span : Int64) (units : List TimeUnit) :
    seconds (sections span units) =
      signed (isPast span) (magnitude (shares span.toInt.natAbs units)) := by
  rw [seconds, counts_sections, List.map_map, ← sum_signed]
  rfl

/-- What is left of a span behind its sections is the remainder with the span's sign. -/
theorem sub_seconds_sections (span : Int64) (units : List TimeUnit) :
    span.toInt - seconds (sections span units) =
      signed (isPast span) (remainder span.toInt.natAbs units) := by
  have hsum := congrArg (signed (isPast span)) (magnitude_shares span.toInt.natAbs units)
  rw [signed_add, signed_natAbs] at hsum
  rw [seconds_sections]
  omega

/-- A magnitude that is not zero has the sign of its span. -/
theorem sign_signed {span : Int64} (hn : n ≠ 0) (hle : n ≤ span.toInt.natAbs) :
    (signed (isPast span) n).sign = span.toInt.sign := by
  by_cases h : span.toInt < 0
  · rw [isPast_eq_true h, signed_true, Int.sign_eq_neg_one_of_neg h]
    exact Int.sign_eq_neg_one_of_neg (by omega)
  · have hpos : 0 < span.toInt := by omega
    rw [isPast_eq_false h, signed_false, Int.sign_eq_one_of_pos hpos]
    exact Int.sign_eq_one_of_pos (by omega)

/-- What a split of a span into sections is. -/
structure IsSplit (span : Int64) (units : List TimeUnit) (parts : List (Int64 × TimeUnit)) :
    Prop where
  /-- The units are in the order given. -/
  ordered : (parts.map (·.2)).Sublist units
  /-- No unit takes part twice. -/
  once : (parts.map (·.2)).Nodup
  /-- No count is zero. -/
  nonzero : ∀ s ∈ parts, s.1 ≠ 0
  /-- The counts have the sign of the span. -/
  sameSign : ∀ s ∈ parts, s.1.toInt.sign = span.toInt.sign
  /-- What is left over, if anything, has the sign of the span. -/
  leftoverSign : span.toInt - seconds parts ≠ 0 →
    (span.toInt - seconds parts).sign = span.toInt.sign
  /-- What is left over is shorter than every unit. -/
  leftoverShort : ∀ u ∈ units, (span.toInt - seconds parts).natAbs < u.seconds

theorem isSplit_sections (span : Int64) (units : List TimeUnit) :
    IsSplit span units (sections span units) := by
  have hunits : (sections span units).map (·.2) =
      (shares span.toInt.natAbs units).map (·.2) := by
    rw [sections_eq, List.map_map]
    rfl
  have hsign : ∀ s ∈ sections span units, s.1 ≠ 0 ∧ s.1.toInt.sign = span.toInt.sign := by
    intro s hs
    -- Each count is a share with the sign of the span, and no share is zero.
    have hmem : (s.1.toInt, s.2) ∈ counts (sections span units) := List.mem_map.2 ⟨s, hs, rfl⟩
    rw [counts_sections] at hmem
    obtain ⟨share, hshare, heq⟩ := List.mem_map.1 hmem
    have hcount : s.1.toInt = signed (isPast span) share.1 := (Prod.mk.inj heq).1.symm
    have hne := share_ne_zero hshare
    refine ⟨fun hzero => hne ?_, ?_⟩
    · rw [← natAbs_signed (isPast span) share.1, ← hcount, hzero]
      rfl
    · rw [hcount, sign_signed hne (count_le hshare)]
  exact {
    ordered := hunits ▸ sublist_shares _ _
    once := hunits ▸ nodup_shares _ _
    nonzero := fun s hs => (hsign s hs).1
    sameSign := fun s hs => (hsign s hs).2
    leftoverSign := by
      rw [sub_seconds_sections]
      intro hne
      refine sign_signed (fun hzero => hne ?_) (remainder_le _ _)
      rw [hzero]
      cases isPast span <;> rfl
    leftoverShort := fun u hu => by
      rw [sub_seconds_sections, natAbs_signed]
      exact remainder_lt _ hu }

/-- **Seconds leave nothing over.** -/
theorem IsSplit.seconds_eq {span : Int64} {parts : List (Int64 × TimeUnit)}
    (h : IsSplit span units parts) (hsecond : .second ∈ units) : seconds parts = span.toInt := by
  have hshort : (span.toInt - seconds parts).natAbs < 1 := h.leftoverShort _ hsecond
  omega

theorem toInt_neg {span : Int64} (h : span ≠ Int64.minValue) : (-span).toInt = -span.toInt := by
  have hlow := span.le_toInt
  have hhigh := span.toInt_lt
  have hne : span.toInt ≠ -2 ^ 63 := by
    rw [← Int64.toInt_minValue]
    exact mt Int64.toInt_inj.1 h
  rw [Int64.toInt_neg]
  exact Int.bmod_eq_of_le (by omega) (by omega)

/-- **Turned around in time, a span has the same sections with their signs turned.** -/
theorem counts_sections_neg {span : Int64} (h : span ≠ Int64.minValue) (units : List TimeUnit) :
    counts (sections (-span) units) =
      (counts (sections span units)).map fun s => (-s.1, s.2) := by
  have hneg := toInt_neg h
  rw [counts_sections, counts_sections, List.map_map, hneg, Int.natAbs_neg]
  refine List.map_congr_left fun s hs => congrArg (·, s.2) ?_
  show signed (isPast (-span)) s.1 = -signed (isPast span) s.1
  have hne := share_ne_zero hs
  have hle := count_le hs
  -- A span that has a share is not zero, so exactly one of the two lies in the past.
  by_cases hpast : span.toInt < 0
  · have hfuture : ¬ (-span).toInt < 0 := by omega
    rw [isPast_eq_true hpast, isPast_eq_false hfuture, signed_true, signed_false, Int.neg_neg]
  · have hpast' : (-span).toInt < 0 := by omega
    rw [isPast_eq_false hpast, isPast_eq_true hpast', signed_true, signed_false]

/-- **Splitting a time span is exact.** The sections are a split of the span: each unit takes part
at most once and in the order given, no count is zero, and counts and leftover have the sign of the
span; the leftover is shorter than every unit, and there is none where seconds are counted. On words
of 64 bits no step of the splitting overflows and no count has to be replaced by one that fits.
Except for the least span, which has no opposite, the opposite span has the opposite counts. -/
theorem sections_exact (span : Int64) (units : List TimeUnit) :
    IsSplit span units (sections span units) ∧
    (.second ∈ units → seconds (sections span units) = span.toInt) ∧
    wordSections? span units = some (sections span units) ∧
    (span ≠ Int64.minValue → counts (sections (-span) units) =
      (counts (sections span units)).map fun s => (-s.1, s.2)) :=
  ⟨isSplit_sections span units, (isSplit_sections span units).seconds_eq,
    wordSections?_eq span units, fun h => counts_sections_neg h units⟩

/-- A day that is asked for after the hours takes no part, nor do the hours again. -/
example : counts (sections (-7325) [.hour, .day, .hour, .second]) =
    [(-2, .hour), (-125, .second)] := by
  decide +kernel

end RelativeTime

end Phrasebook
