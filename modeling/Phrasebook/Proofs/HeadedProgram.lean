import Mathlib.Data.List.Chain
import Phrasebook.Proofs.HeadedPattern

/-!
# Headed patterns step by step

A headed pattern that looks ahead is run step by step: one of two heads, a blank, a row of letters,
a blank, and something that must not follow.

**Choices** (`choose_of_found`, `choose_of_failed`). A way that is found decides. A way that fails
on the level just above leads to the other way, one step later.

**Steps** (`Tidy`). At each place of a text no more steps are taken than there are characters left,
and a few. A text of moderate length is searched without reaching a limit. If no two blanks stand in
a row in the text, what must not follow never does when it begins with a blank.

Main result: `reads_headed_program`. On tidy texts the program reads as its heads and the row of
letters say.
-/

namespace Phrasebook.Regex

open Unicode (CharSet)

theorem Cursor.left_of_skip? {place stop : Cursor} {cs : List Char}
    (h : place.skip? cs = some stop) : place.left = cs.length + stop.left := by
  rw [place.left_eq, stop.left_eq, (skip?_eq_some_iff.1 h).1, List.length_append]

/-! ## Groups -/

namespace Moment

variable (m : Moment) (index : Nat)

@[simp] theorem beginGroup_place : (m.beginGroup index).place = m.place := rfl

@[simp] theorem beginGroup_level : (m.beginGroup index).level = m.level := rfl

end Moment

namespace Program

variable {start : Option Cursor} {m m' : Moment} {k : Continuation}

/-! ## Choices -/

section

variable {first second : Moment → Outcome} {steps : Nat}

theorem choose_of_found (hlevel : m.level < levelLimit)
    (h : first { m with level := m.level + 1 } = .found m') :
    choose m first second = .found m' := by
  rw [choose, if_pos hlevel, h]

theorem choose_of_failed (hlevel : m.level < levelLimit)
    (h : first { m with level := m.level + 1 } = .failed (m.level + 1) steps)
    (hsteps : steps < stepLimit) :
    choose m first second = second { m with steps := steps + 1 } := by
  rw [choose, if_pos hlevel, h]
  dsimp only
  rw [if_neg (Nat.not_succ_le_self _), if_pos hsteps]

end

/-! ## Texts -/

theorem run_text_of_skip {cs : List Char} {stop : Cursor} (h : m.place.skip? cs = some stop) :
    (text cs).run start m k = k { m with place := stop } := by
  rw [run]
  dsimp only
  rw [h]

/-- A text that is not there, or behind which the rest fails, fails at once. -/
theorem run_text_of_fail {cs : List Char}
    (h : ∀ stop, m.place.skip? cs = some stop →
      k { m with place := stop } = .failed m.level m.steps) :
    (text cs).run start m k = fail m := by
  rw [run]
  dsimp only
  cases hskip : m.place.skip? cs with
  | none => rfl
  | some stop => exact h stop hskip

/-! ## Rows of letters -/

/-- A letter. -/
def letter : Program :=
  part [] (.set Simple.letters)

/-- One or more letters. -/
def letterRow : Program :=
  seq letter (star true letter)

theorem run_letter : letter.run start m k =
    match Simple.behind? Simple.letters m.place with
    | some next => k { m with place := next }
    | none => fail m := by
  rw [letter, run]
  dsimp only
  rw [Plain.tryAt, Simple.run_set]
  cases Simple.behind? Simple.letters m.place <;> rfl

theorem runStar_succ {body : Runner} {rounds : Nat} : runStar true body (rounds + 1) m k =
    choose m (fun m => body m fun m => runStar true body rounds m k) k := rfl

variable {cs rest : List Char} {stop : Cursor} {rounds : Nat}

/-- All letters that come next are taken, if the rest is found behind them. -/
theorem runStar_of_found (hcs : Lettered cs) (hskip : m.place.skip? cs = some stop)
    (hend : stop.after.head?.all fun c => !isLetter c) (hrounds : cs.length < rounds)
    (hlevel : m.level + cs.length < levelLimit) (hsteps : m.steps < stepLimit)
    (hk : k { m with place := stop, level := m.level + cs.length, steps := m.steps + 1 } =
      .found m') :
    runStar true (letter.run start) rounds m k = .found m' := by
  induction cs generalizing m rounds with
  | nil =>
    obtain ⟨rounds, rfl⟩ := Nat.exists_eq_succ_of_ne_zero (Nat.ne_zero_of_lt hrounds)
    obtain rfl := Option.some.inj hskip
    rw [runStar_succ]
    -- No letter is left: one step is lost on the attempt, and the rest goes on.
    refine (choose_of_failed hlevel ?_ hsteps).trans hk
    rw [run_letter]
    dsimp only
    rw [Simple.behind?_letters_of_end hend]
    rfl
  | cons c cs ih =>
    obtain ⟨rounds, rfl⟩ := Nat.exists_eq_succ_of_ne_zero (Nat.ne_zero_of_lt hrounds)
    obtain ⟨next, hnext, hrest⟩ := Cursor.skip?_cons hskip
    rw [List.length_cons] at hrounds hlevel hk
    rw [runStar_succ]
    refine choose_of_found (by omega) ?_
    rw [run_letter]
    dsimp only
    rw [Simple.behind?_letters_of_letter hnext hcs.head]
    refine ih hcs.tail hrest (Nat.lt_of_succ_lt_succ hrounds) (by dsimp only; omega) hsteps ?_
    rw [← hk]
    dsimp only
    rw [Nat.add_right_comm, Nat.add_assoc]

/-- Whether neither a letter nor a blank comes first. -/
def isStopped (rest : List Char) : Bool :=
  rest.head?.all fun c => !isLetter c && c != ' '

theorem no_letter_of_isStopped (h : isStopped rest) : rest.head?.all fun c => !isLetter c := by
  unfold isStopped at h
  cases rest with
  | nil => rfl
  | cons c rest => exact (Bool.and_eq_true_iff.1 h).1

theorem head?_ne_blank (hcs : Lettered cs) (hend : isStopped rest) :
    (cs ++ rest).head? ≠ some ' ' := by
  cases cs with
  | nil =>
    intro hblank
    rw [List.nil_append] at hblank
    rw [isStopped, hblank] at hend
    exact absurd hend (by decide)
  | cons c cs =>
    rintro ⟨⟩
    exact absurd (hcs ' ' List.mem_cons_self) (by decide)

/-- If the rest needs a blank and none stands behind the letters that come next, each letter is
given back in one step. -/
theorem runStar_of_failed (hk : ∀ m : Moment, m.place.after.head? ≠ some ' ' → k m = fail m)
    (hcs : Lettered cs) (hafter : m.place.after = cs ++ rest) (hend : isStopped rest)
    (hrounds : cs.length < rounds) (hlevel : m.level + cs.length < levelLimit)
    (hsteps : m.steps + cs.length < stepLimit) :
    runStar true (letter.run start) rounds m k = .failed m.level (m.steps + cs.length + 1) := by
  have hhere : m.place.after.head? ≠ some ' ' := hafter ▸ head?_ne_blank hcs hend
  induction cs generalizing m rounds with
  | nil =>
    obtain ⟨rounds, rfl⟩ := Nat.exists_eq_succ_of_ne_zero (Nat.ne_zero_of_lt hrounds)
    rw [runStar_succ]
    refine (choose_of_failed hlevel ?_ hsteps).trans (hk _ hhere)
    rw [run_letter]
    dsimp only
    rw [Simple.behind?_letters_of_end (hafter ▸ no_letter_of_isStopped hend)]
    rfl
  | cons c cs ih =>
    obtain ⟨rounds, rfl⟩ := Nat.exists_eq_succ_of_ne_zero (Nat.ne_zero_of_lt hrounds)
    obtain ⟨next, hnext, hrest⟩ := Cursor.exists_next?_of_after hafter
    rw [List.length_cons] at hrounds hlevel hsteps ⊢
    -- The longer row fails first, and leaves one step for the way that stops here.
    have hround : letter.run start { m with level := m.level + 1 }
        (fun m => runStar true (letter.run start) rounds m k) =
          .failed (m.level + 1) (m.steps + cs.length + 1) := by
      rw [run_letter]
      dsimp only
      rw [Simple.behind?_letters_of_letter hnext hcs.head]
      exact ih hcs.tail hrest (by omega) (by dsimp only; omega) (by dsimp only; omega)
        (hrest ▸ head?_ne_blank hcs.tail hend)
    rw [runStar_succ, choose_of_failed (by omega) hround (by omega)]
    exact hk _ hhere

/-! ## Behind a head -/

/-- A blank, and something that must not follow. -/
def lastBlank (groups : List Nat) (unwanted : Plain) : Program :=
  seq empty (seq (text [' ']) (seq empty (seq (look true (part groups unwanted)) empty)))

/-- A blank, a row of letters as group 2, and the last blank. -/
def rowBehind (groups : List Nat) (unwanted : Plain) : Program :=
  seq empty (seq (text [' ']) (seq empty (seq (group 2 letterRow) (lastBlank groups unwanted))))

/-- A pattern that is never matched where no blank comes next. -/
def NeedsBlank (p : Plain) : Prop :=
  ∀ place, place.after.head? ≠ some ' ' → ∃ tried, p.tryAt place ∅ = .failed tried

/-- The letters in front of a text, if a blank follows them, and what is left behind it. -/
def spacedRow : Rewriter := fun cs =>
  match cs.takeWhile isLetter, cs.dropWhile isLetter with
  | c :: w, ' ' :: rest => some (c :: w, rest)
  | _, _ => none

variable {groups : List Nat} {unwanted : Plain} {next : Cursor}

theorem run_blank_of_no_blank (h : m.place.after.head? ≠ some ' ') :
    (text [' ']).run start m k = fail m := by
  refine run_text_of_fail fun stop hstop => ?_
  rw [(Cursor.skip?_eq_some_iff.1 hstop).1] at h
  exact absurd rfl h

theorem run_lastBlank_of_no_blank (h : m.place.after.head? ≠ some ' ') :
    (lastBlank groups unwanted).run start m k = fail m := by
  show (text [' ']).run start m _ = fail m
  exact run_blank_of_no_blank h

theorem run_lastBlank (hunwanted : NeedsBlank unwanted) (hskip : m.place.skip? [' '] = some next)
    (hnext : next.after.head? ≠ some ' ') (hlevel : m.level < levelLimit)
    (hsteps : m.steps < stepLimit) :
    (lastBlank groups unwanted).run start m k =
      k { m with place := next, steps := m.steps + 1 } := by
  obtain ⟨tried, htried⟩ := hunwanted next hnext
  show (text [' ']).run start m
    (fun m => choose m (fun inside => (part groups unwanted).run start inside
      fun after => .failed m.level after.steps) k) = _
  rw [run_text_of_skip hskip]
  refine choose_of_failed hlevel ?_ hsteps
  rw [run]
  dsimp only
  rw [htried]
  rfl

/-- Behind a head without a blank nothing is found. -/
theorem run_rowBehind_of_no_blank (h : m.place.after.head? ≠ some ' ') :
    (rowBehind groups unwanted).run start m k = fail m := by
  show (text [' ']).run start m _ = fail m
  exact run_blank_of_no_blank h

theorem spacedRow_eq_some {more w rest : List Char} (h : spacedRow more = some (w, rest)) :
    w ≠ [] ∧ Lettered w ∧ more = w ++ ' ' :: rest := by
  unfold spacedRow at h
  split at h
  · next c w' rest' hrow hrest =>
    cases h
    refine ⟨List.cons_ne_nil c w', fun d hd => ?_, ?_⟩
    · exact List.mem_takeWhile_imp (hrow ▸ hd)
    · rw [← hrow, ← hrest, List.takeWhile_append_dropWhile]
  · cases h

/-- The end of a whole match. -/
def finish : Continuation := fun m =>
  .found (m.endGroup 0)

theorem run_rowBehind_of_some {w : List Char} {middle stop : Cursor}
    (hunwanted : NeedsBlank unwanted) (hw : w ≠ []) (hletters : Lettered w)
    (hnext : m.place.skip? [' '] = some next) (hmiddle : next.skip? w = some middle)
    (hstop : middle.skip? [' '] = some stop) (hrest : stop.after.head? ≠ some ' ')
    (hlevel : m.level + w.length < levelLimit) (hsteps : m.steps + 1 < stepLimit) :
    ∃ level steps, (rowBehind groups unwanted).run start m finish =
      .found (Moment.endGroup { Moment.endGroup { Moment.beginGroup { m with place := next } 2 with
        place := middle } 2 with place := stop, level, steps } 0) := by
  obtain ⟨c, w, rfl⟩ := List.exists_cons_of_ne_nil hw
  obtain ⟨second, hsecond, hrow⟩ := Cursor.skip?_cons hmiddle
  rw [List.length_cons] at hlevel
  -- Behind the row stands the blank, so the row cannot go on.
  have hend : middle.after.head?.all fun c => !isLetter c := by
    rw [(Cursor.skip?_eq_some_iff.1 hstop).1]
    exact (by decide : (!isLetter ' ') = true)
  refine ⟨m.level + w.length, m.steps + 2, ?_⟩
  show (text [' ']).run start m (fun m => letter.run start (m.beginGroup 2) fun m =>
    runStar true (letter.run start) (levelLimit + 1) m fun m =>
      (lastBlank groups unwanted).run start (m.endGroup 2) finish) = _
  rw [run_text_of_skip hnext, run_letter]
  have hfirst : Simple.behind? Simple.letters next = some second :=
    Simple.behind?_letters_of_letter hsecond hletters.head
  simp only [Moment.beginGroup_place, hfirst]
  refine runStar_of_found hletters.tail hrow hend (by omega) ?_ ?_ ?_
  · show m.level + w.length < levelLimit
    omega
  · show m.steps < stepLimit
    omega
  · dsimp only
    rw [run_lastBlank hunwanted hstop hrest]
    · rfl
    · show m.level + w.length < levelLimit
      omega
    · exact hsteps

theorem spacedRow_eq_none {more : List Char} (h : spacedRow more = none) :
    (more.head?.all fun c => !isLetter c) ∨
      ∃ c w rest, Lettered (c :: w) ∧ isStopped rest ∧ more = c :: w ++ rest := by
  have hsplit := List.takeWhile_append_dropWhile (p := isLetter) (l := more)
  cases hrow : more.takeWhile isLetter with
  | nil => exact .inl (no_letter_of_takeWhile_eq_nil hrow)
  | cons c w =>
    refine .inr ⟨c, w, more.dropWhile isLetter, fun d hd => List.mem_takeWhile_imp (hrow ▸ hd), ?_,
      (hrow ▸ hsplit).symm⟩
    cases hrest : more.dropWhile isLetter with
    | nil => rfl
    | cons d rest =>
      -- Behind the letters stands no letter, and no blank either, for then there would be a row.
      have hd := no_letter_dropWhile more
      rw [hrest] at hd
      have hblank : d ≠ ' ' := by
        rintro rfl
        rw [spacedRow, hrow, hrest] at h
        cases h
      simpa [isStopped, hblank] using hd

theorem run_rowBehind_of_none {more : List Char} (hafter : m.place.after = ' ' :: more)
    (h : spacedRow more = none) (hlevel : m.level + more.length < levelLimit)
    (hsteps : m.steps + more.length < stepLimit) :
    ∃ steps ≤ m.steps + more.length,
      (rowBehind groups unwanted).run start m k = .failed m.level steps := by
  obtain ⟨next, hnext, rfl⟩ : ∃ next, m.place.skip? [' '] = some next ∧ next.after = more :=
    Cursor.exists_skip? hafter
  have hrun : (rowBehind groups unwanted).run start m k =
      letter.run start ({ m with place := next }.beginGroup 2) fun m =>
        runStar true (letter.run start) (levelLimit + 1) m fun m =>
          (lastBlank groups unwanted).run start (m.endGroup 2) k := by
    show (text [' ']).run start m _ = _
    exact run_text_of_skip hnext
  rw [hrun, run_letter]
  simp only [Moment.beginGroup_place]
  -- There is no letter at all, or the letters are not followed by a blank.
  rcases spacedRow_eq_none h with hend | ⟨c, w, rest, hletters, hend, hmore⟩
  · rw [Simple.behind?_letters_of_end hend]
    exact ⟨m.steps, Nat.le_add_right _ _, rfl⟩
  · obtain ⟨second, hsecond, hrow⟩ := Cursor.exists_next?_of_after hmore
    have hlength : next.after.length = w.length + rest.length + 1 := by
      rw [hmore]
      simp
    rw [Simple.behind?_letters_of_letter hsecond hletters.head]
    refine ⟨m.steps + w.length + 1, by omega, ?_⟩
    refine runStar_of_failed (fun m hm => ?_) hletters.tail hrow hend ?_ ?_ ?_
    · exact run_lastBlank_of_no_blank hm
    · omega
    · show m.level + w.length < levelLimit
      omega
    · show m.steps + w.length < stepLimit
      omega

/-! ## With a head -/

/-- One of two heads as group 1, and a row of letters between blanks. -/
def headed (a b : List Char) (groups : List Nat) (unwanted : Plain) : Program :=
  seq empty (seq (group 1 (choice (text a) (text b))) (rowBehind groups unwanted))

/-- What comes behind a head. -/
def behindHead (groups : List Nat) (unwanted : Plain) (start : Option Cursor) :
    Continuation := fun m =>
  (rowBehind groups unwanted).run start (m.endGroup 1) finish

variable {head a b : List Char} {joint close out : List Char}

theorem runWhole_headed : (headed a b groups unwanted).runWhole start m =
    choose ((m.beginGroup 0).beginGroup 1)
      (fun m => (text a).run start m (behindHead groups unwanted start))
      (fun m => (text b).run start m (behindHead groups unwanted start)) := rfl

/-- A head behind which there is no row between blanks fails. -/
theorem run_head_of_none
    (h : ∀ more, m.place.after = head ++ ' ' :: more → spacedRow more = none)
    (hlevel : m.level + m.place.left < levelLimit) (hsteps : m.steps + m.place.left < stepLimit) :
    ∃ steps ≤ m.steps + m.place.left,
      (text head).run start m (behindHead groups unwanted start) = .failed m.level steps := by
  by_cases hhere : ∃ more, m.place.after = head ++ ' ' :: more
  · obtain ⟨more, hmore⟩ := hhere
    obtain ⟨stop, hstop, hafter⟩ := Cursor.exists_skip? hmore
    have hlength := Cursor.left_of_skip? hstop
    rw [stop.left_eq, hafter, List.length_cons] at hlength
    -- The head and its blank are passed without a step, so all steps are those of the row.
    obtain ⟨steps, hle, hrun⟩ : ∃ steps ≤ m.steps + more.length,
        (rowBehind groups unwanted).run start ({ m with place := stop }.endGroup 1) finish =
          .failed m.level steps :=
      run_rowBehind_of_none (m := { m with place := stop }.endGroup 1) hafter (h more hmore)
        (show m.level + more.length < levelLimit by omega)
        (show m.steps + more.length < stepLimit by omega)
    refine ⟨steps, by omega, ?_⟩
    rw [run_text_of_skip hstop]
    exact hrun
  · refine ⟨m.steps, Nat.le_add_right _ _, run_text_of_fail fun stop hstop => ?_⟩
    have hno : stop.after.head? ≠ some ' ' := by
      intro hblank
      obtain ⟨more, hmore⟩ := List.head?_eq_some_iff.1 hblank
      exact hhere ⟨more, hmore ▸ (Cursor.skip?_eq_some_iff.1 hstop).1⟩
    exact run_rowBehind_of_no_blank hno

/-- **A headed program fails** where its heads and the row of letters say so, in few steps. -/
theorem runWhole_headed_of_none (hheads : ∀ head ∈ [a, b], Lettered head)
    (h : headedRewriter [a, b] joint close spacedRow m.place.after = none)
    (hlevel : m.level + m.place.left + 1 < levelLimit)
    (hsteps : m.steps + 2 * m.place.left + 1 < stepLimit) :
    ∃ steps ≤ m.steps + 2 * m.place.left + 1,
      (headed a b groups unwanted).runWhole start m = .failed m.level steps := by
  have hnone : ∀ head ∈ [a, b], ∀ more, m.place.after = head ++ ' ' :: more →
      spacedRow more = none := by
    intro head hhead more hmore
    rwa [hmore, headedRewriter_of_head (hheads head hhead) hhead, Option.map_eq_none_iff] at h
  rw [runWhole_headed]
  obtain ⟨steps, hle, hrun⟩ : ∃ steps ≤ m.steps + m.place.left,
      (text a).run start { (m.beginGroup 0).beginGroup 1 with level := m.level + 1 }
        (behindHead groups unwanted start) = .failed (m.level + 1) steps :=
    run_head_of_none (m := { (m.beginGroup 0).beginGroup 1 with level := m.level + 1 })
      (hnone a (by simp)) (show m.level + 1 + m.place.left < levelLimit by omega)
      (show m.steps + m.place.left < stepLimit by omega)
  -- The second head begins with the steps that the first one has used up.
  obtain ⟨steps', hle', hrun'⟩ : ∃ steps' ≤ steps + 1 + m.place.left,
      (text b).run start { (m.beginGroup 0).beginGroup 1 with steps := steps + 1 }
        (behindHead groups unwanted start) = .failed m.level steps' :=
    run_head_of_none (m := { (m.beginGroup 0).beginGroup 1 with steps := steps + 1 })
      (hnone b (by simp)) (show m.level + m.place.left < levelLimit by omega)
      (show steps + 1 + m.place.left < stepLimit by omega)
  have hlevel' : ((m.beginGroup 0).beginGroup 1).level < levelLimit := by
    simp only [Moment.beginGroup_level]
    omega
  exact ⟨steps', by omega, (choose_of_failed hlevel' hrun (by omega)).trans hrun'⟩

/-- What a match of a headed program has noted. -/
theorem change_of_groups {place behind next middle stop : Cursor} {w : List Char}
    (hbehind : place.skip? head = some behind) (hnext : behind.skip? [' '] = some next)
    (hmiddle : next.skip? w = some middle) (hstop : middle.skip? [' '] = some stop)
    (hm : m.groups = [(0, ⟨some place, some stop⟩), (2, ⟨some next, some middle⟩),
      (1, ⟨some place, some behind⟩)]) :
    (Captures.ofMoment m).change (writeHeaded joint close) =
      ⟨place, head ++ joint ++ w ++ close, stop.after⟩ := by
  have h1 := Cursor.left_of_skip? hbehind
  have h2 := Cursor.left_of_skip? hnext
  have h3 := Cursor.left_of_skip? hmiddle
  have h4 := Cursor.left_of_skip? hstop
  have hcaps : Captures.ofMoment m = ⟨⟨place, stop⟩,
      [(0, ⟨place, stop⟩), (2, ⟨next, middle⟩), (1, ⟨place, behind⟩)]⟩ := by
    -- No bounds are crossed, so that each group has a span.
    have hwhole : ¬ place.left < stop.left := by omega
    have hfirst : ¬ place.left < behind.left := by omega
    have hsecond : ¬ next.left < middle.left := by omega
    simp [Captures.ofMoment, Moment.boundsOf, hm, Bounds.span?, hwhole, hfirst, hsecond]
  have hhead : place.textTo behind = head := Cursor.textTo_eq (Cursor.skip?_eq_some_iff.1 hbehind).1
  have hrow : next.textTo middle = w := Cursor.textTo_eq (Cursor.skip?_eq_some_iff.1 hmiddle).1
  rw [hcaps, ← hhead, ← hrow]
  rfl

/-- A head and a row of letters between blanks are found. -/
theorem run_head_of_some {behind next middle stop : Cursor} {w : List Char}
    (hunwanted : NeedsBlank unwanted) (hw : w ≠ []) (hletters : Lettered w)
    (hbehind : m.place.skip? head = some behind) (hnext : behind.skip? [' '] = some next)
    (hmiddle : next.skip? w = some middle) (hstop : middle.skip? [' '] = some stop)
    (hrest : stop.after.head? ≠ some ' ') (hlevel : m.level + m.place.left < levelLimit)
    (hsteps : m.steps + 1 < stepLimit)
    (hm : m.groups = [(1, ⟨some m.place, none⟩), (0, ⟨some m.place, none⟩)]) :
    ∃ m', (text head).run start m (behindHead groups unwanted start) = .found m' ∧
      (Captures.ofMoment m').change (writeHeaded joint close) =
        ⟨m.place, head ++ joint ++ w ++ close, stop.after⟩ := by
  have h1 := Cursor.left_of_skip? hbehind
  have h2 := Cursor.left_of_skip? hnext
  have h3 := Cursor.left_of_skip? hmiddle
  obtain ⟨level, steps, hrun⟩ := run_rowBehind_of_some
    (m := { m with place := behind }.endGroup 1) hunwanted hw hletters hnext hmiddle hstop hrest
    (show m.level + w.length < levelLimit by omega) hsteps
  refine ⟨_, (run_text_of_skip hbehind).trans hrun, ?_⟩
  refine change_of_groups hbehind hnext hmiddle hstop ?_
  simp only [Moment.endGroup, Moment.beginGroup, Moment.setBounds, Moment.boundsOf, hm]
  rfl

/-- **A headed program finds** what its heads and the row of letters say. -/
theorem runWhole_headed_of_some (hunwanted : NeedsBlank unwanted)
    (hheads : ∀ head ∈ [a, b], Lettered head) (hm : m.groups = [])
    (h : headedRewriter [a, b] joint close spacedRow m.place.after = some (out, rest))
    (hrest : rest.head? ≠ some ' ') (hlevel : m.level + m.place.left + 1 < levelLimit)
    (hsteps : m.steps + m.place.left + 2 < stepLimit) :
    ∃ m', (headed a b groups unwanted).runWhole start m = .found m' ∧
      (Captures.ofMoment m').change (writeHeaded joint close) = ⟨m.place, out, rest⟩ := by
  obtain ⟨head, hhead, more, hplace⟩ :
      ∃ head ∈ [a, b], ∃ more, m.place.after = head ++ ' ' :: more := by
    by_contra hno
    rw [headedRewriter_of_no_head fun head hhead more hmore => hno ⟨head, hhead, more, hmore⟩] at h
    cases h
  have hletters : Lettered head := hheads head hhead
  rw [hplace, headedRewriter_of_head hletters hhead] at h
  obtain ⟨⟨w, rest'⟩, hspaced, hout⟩ := Option.map_eq_some_iff.1 h
  obtain ⟨rfl, rfl⟩ := Prod.mk.inj hout
  obtain ⟨hw, hrow, hmore⟩ := spacedRow_eq_some hspaced
  -- The places behind the head, the blank, the row and the last blank.
  obtain ⟨behind, hbehind, hbehindAfter⟩ := Cursor.exists_skip? hplace
  obtain ⟨next, hnext, hnextAfter⟩ : ∃ next, behind.skip? [' '] = some next ∧ next.after = more :=
    Cursor.exists_skip? hbehindAfter
  obtain ⟨middle, hmiddle, hmiddleAfter⟩ := Cursor.exists_skip? (hnextAfter.trans hmore)
  obtain ⟨stop, hstop, rfl⟩ : ∃ stop, middle.skip? [' '] = some stop ∧ stop.after = rest' :=
    Cursor.exists_skip? hmiddleAfter
  -- The head is found on whatever level and after however many steps it is tried.
  have hfound (level steps : Nat) (hlevel' : level + m.place.left < levelLimit)
      (hsteps' : steps + 1 < stepLimit) :
      ∃ m', (text head).run start { (m.beginGroup 0).beginGroup 1 with level, steps }
          (behindHead groups unwanted start) = .found m' ∧
        (Captures.ofMoment m').change (writeHeaded joint close) =
          ⟨m.place, head ++ joint ++ w ++ close, stop.after⟩ := by
    refine run_head_of_some hunwanted hw hrow hbehind hnext hmiddle hstop hrest hlevel' hsteps' ?_
    simp only [Moment.beginGroup, Moment.setBounds, Moment.boundsOf, hm]
    rfl
  have hlevel' : ((m.beginGroup 0).beginGroup 1).level < levelLimit := by
    simp only [Moment.beginGroup_level]
    omega
  rw [runWhole_headed]
  by_cases hfirst : head = a
  · obtain ⟨m', hrun, hchange⟩ := hfound (m.level + 1) m.steps (by omega) (by omega)
    exact ⟨m', choose_of_found hlevel' (hfirst ▸ hrun), hchange⟩
  · obtain rfl : head = b := (List.mem_pair.1 hhead).resolve_left hfirst
    -- The first head is not there, for only one is.
    obtain ⟨steps, hle, hfail⟩ : ∃ steps ≤ m.steps + m.place.left,
        (text a).run start { (m.beginGroup 0).beginGroup 1 with level := m.level + 1 }
          (behindHead groups unwanted start) = .failed (m.level + 1) steps := by
      refine run_head_of_none (m := { (m.beginGroup 0).beginGroup 1 with level := m.level + 1 })
        (fun more' hmore' => absurd ?_ hfirst)
        (show m.level + 1 + m.place.left < levelLimit by omega)
        (show m.steps + m.place.left < stepLimit by omega)
      exact head_unique hletters (hheads a List.mem_cons_self) (hplace.symm.trans hmore')
    obtain ⟨m', hrun, hchange⟩ := hfound m.level (steps + 1) (by omega) (by omega)
    exact ⟨m', (choose_of_failed hlevel' hfail (by omega)).trans hrun, hchange⟩

end Program

/-! ## Searching -/

/-- Not more than 500 characters, and no two blanks in a row. -/
structure Tidy (cs : List Char) : Prop where
  length_le : cs.length ≤ 500
  single_blanks : cs.IsChain fun c d => c = ' ' → d ≠ ' '

theorem Tidy.tail {c : Char} {cs : List Char} (h : Tidy (c :: cs)) : Tidy cs where
  length_le := (Nat.le_succ _).trans h.length_le
  single_blanks := h.single_blanks.tail

theorem Tidy.head?_ne_blank {taken rest : List Char} (h : Tidy (taken ++ ' ' :: rest)) :
    rest.head? ≠ some ' ' := by
  intro hblank
  obtain ⟨more, rfl⟩ := List.head?_eq_some_iff.1 hblank
  have hpair := (List.isChain_append_cons_cons.1 h.single_blanks).2.1
  exact hpair rfl rfl

namespace Program

variable {start : Option Cursor} {m : Moment} {groups : List Nat} {unwanted : Plain}
  {a b joint close cs out rest : List Char}

/-- A blank is the last of what a headed program takes. -/
theorem exists_taken (hheads : ∀ head ∈ [a, b], Lettered head)
    (h : headedRewriter [a, b] joint close spacedRow cs = some (out, rest)) :
    ∃ taken, cs = taken ++ ' ' :: rest := by
  by_cases hhead : ∃ head ∈ [a, b], ∃ more, cs = head ++ ' ' :: more
  · obtain ⟨head, hhead, more, rfl⟩ := hhead
    rw [headedRewriter_of_head (hheads head hhead) hhead] at h
    obtain ⟨⟨w, rest'⟩, hspaced, hout⟩ := Option.map_eq_some_iff.1 h
    obtain ⟨rfl, rfl⟩ := Prod.mk.inj hout
    obtain ⟨-, -, rfl⟩ := spacedRow_eq_some hspaced
    exact ⟨head ++ ' ' :: w, by simp⟩
  · rw [headedRewriter_of_no_head fun head hmem more hcs => hhead ⟨head, hmem, more, hcs⟩] at h
    cases h

/-- At one place of a tidy text: a match, or the second way some steps later. -/
theorem choose_runWhole_headed (joint close : List Char) (hunwanted : NeedsBlank unwanted)
    (hheads : ∀ head ∈ [a, b], Lettered head) (htidy : Tidy m.place.after)
    (hm : m.groups = []) (hlevel : m.level = 0) (hsteps : m.steps + 1002 < stepLimit)
    (second : Moment → Outcome) :
    (∃ m', choose m ((headed a b groups unwanted).runWhole start) second = .found m' ∧
      (headedRewriter [a, b] joint close spacedRow).changeAt m.place =
        some ((Captures.ofMoment m').change (writeHeaded joint close))) ∨
    ∃ steps ≤ m.steps + 1002,
      choose m ((headed a b groups unwanted).runWhole start) second = second { m with steps } ∧
      (headedRewriter [a, b] joint close spacedRow).changeAt m.place = none := by
  have hleft : m.place.left ≤ 500 := m.place.left_eq ▸ htidy.length_le
  have hzero : m.level < levelLimit := hlevel ▸ Nat.zero_lt_succ _
  have hroom : m.level + 1 + m.place.left + 1 < levelLimit := by
    rw [levelLimit]
    omega
  rw [Rewriter.changeAt]
  cases hchange : headedRewriter [a, b] joint close spacedRow m.place.after with
  | some change =>
    obtain ⟨out, rest⟩ := change
    -- A match ends behind a blank, and in a tidy text no second one follows it.
    obtain ⟨taken, htaken⟩ := exists_taken hheads hchange
    obtain ⟨m', hrun, hnoted⟩ : ∃ m', (headed a b groups unwanted).runWhole start
          { m with level := m.level + 1 } = .found m' ∧
        (Captures.ofMoment m').change (writeHeaded joint close) = ⟨m.place, out, rest⟩ :=
      runWhole_headed_of_some (m := { m with level := m.level + 1 }) hunwanted hheads hm hchange
        (htaken ▸ htidy).head?_ne_blank hroom
        (show m.steps + m.place.left + 2 < stepLimit by omega)
    exact .inl ⟨m', choose_of_found hzero hrun, congrArg some hnoted.symm⟩
  | none =>
    obtain ⟨steps, hle, hrun⟩ : ∃ steps ≤ m.steps + 2 * m.place.left + 1,
        (headed a b groups unwanted).runWhole start { m with level := m.level + 1 } =
          .failed (m.level + 1) steps :=
      runWhole_headed_of_none (m := { m with level := m.level + 1 }) hheads hchange hroom
        (show m.steps + 2 * m.place.left + 1 < stepLimit by omega)
    exact .inr ⟨steps + 1, by omega, choose_of_failed hzero hrun (by omega), rfl⟩

/-- **The first match** of a headed program in a tidy text. -/
theorem seek_headed (joint close : List Char) (hunwanted : NeedsBlank unwanted)
    (hheads : ∀ head ∈ [a, b], Lettered head) {further : Nat} (htidy : Tidy m.place.after)
    (hm : m.groups = []) (hlevel : m.level = 0)
    (hsteps : m.steps + (further + 1) * 1002 < stepLimit) :
    (∃ m', (headed a b groups unwanted).seek start further m = .found m' ∧
      firstFrom (headedRewriter [a, b] joint close spacedRow).changeAt further m.place =
        some ((Captures.ofMoment m').change (writeHeaded joint close))) ∨
    ∃ floor steps, (headed a b groups unwanted).seek start further m = .failed floor steps ∧
      firstFrom (headedRewriter [a, b] joint close spacedRow).changeAt further m.place = none := by
  induction further generalizing m with
  | zero =>
    rw [seek]
    rcases choose_runWhole_headed joint close hunwanted hheads htidy hm hlevel (by omega) fail with
      ⟨m', hrun, hchange⟩ | ⟨steps, -, hrun, hchange⟩
    · exact .inl ⟨m', hrun, hchange⟩
    · exact .inr ⟨m.level, steps, hrun, hchange⟩
  | succ further ih =>
    rw [seek, firstFrom]
    rcases choose_runWhole_headed joint close hunwanted hheads htidy hm hlevel (by omega) _ with
      ⟨m', hrun, hchange⟩ | ⟨steps, hle, hrun, hchange⟩
    · exact .inl ⟨m', hrun, by rw [hchange]; rfl⟩
    · rw [hrun, hchange, Option.none_or]
      dsimp only
      cases hnext : m.place.next? with
      | none => exact .inr ⟨m.level, steps, rfl, rfl⟩
      | some cn =>
        obtain ⟨c, next⟩ := cn
        -- No place takes more than 1002 steps, and the bound on steps has room for those to come.
        have hafter := (Cursor.next?_eq_some_iff.1 hnext).1
        exact ih (m := { m with place := next, steps }) (hafter ▸ htidy).tail hm hlevel
          (show steps + (further + 1) * 1002 < stepLimit by omega)

end Program

variable {a b joint close : List Char} {groups : List Nat} {unwanted : Plain}

/-- **A headed program** reads a tidy text as its heads and a row of letters between blanks say. -/
theorem reads_headed_program (hunwanted : Program.NeedsBlank unwanted)
    (hheads : ∀ head ∈ [a, b], Lettered head) (count : Nat) (source : String) :
    Reads ⟨.stepwise (.headed a b groups unwanted), count, false, source⟩ (writeHeaded joint close)
      Tidy (headedRewriter [a, b] joint close Program.spacedRow) where
  find passed place htidy := by
    have hleft : place.left ≤ 500 := place.left_eq ▸ htidy.length_le
    rw [find]
    dsimp only
    have hsteps : 0 + (place.left + 1) * 1002 < Program.stepLimit := by
      rw [Program.stepLimit]
      omega
    rcases Program.seek_headed joint close (m := { place }) hunwanted hheads htidy rfl rfl
        hsteps with
      ⟨m', hrun, hfirst⟩ | ⟨floor, steps, hrun, hfirst⟩
    · rw [hrun, hfirst]
      exact .hit _
    · rw [hrun, hfirst]
      exact .nothing
  taken h := by
    obtain ⟨taken, htaken⟩ := Program.exists_taken hheads h
    exact ⟨taken ++ [' '], by simp, by rw [htaken, List.append_assoc]; rfl⟩

end Phrasebook.Regex
