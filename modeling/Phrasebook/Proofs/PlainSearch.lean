import Mathlib.Data.List.Basic
import Phrasebook.Regex.Search

/-!
# Marks lose nothing

A plain pattern is tried at one place after another, and the marks that were passed are kept all the
way: whoever comes to a mark again at the same place fails at once.

**Simple patterns** (`Simple`). Sets in a row, choices, groups, and rows of characters of one set.
Their plain form gives out the marks from a number on (`Simple.toPlain`).

**Search without marks** (`Simple.scan`). The same order of ways, and nothing is remembered.

**Dead marks** (`Simple.Dead`). What follows a mark at a place fails, whatever the groups have
matched. A mark that was passed is dead, or it is still open and the search has left it behind
(`Sound`); so a mark that is met again is dead, and to fail there is right.

Main result: `seek_toPlain`. The first match of a simple pattern is the one that a search without
marks finds at the first place where it finds one.
-/

namespace Phrasebook.Regex

open Unicode (CharSet)

/-! ## Places of one text -/

/-- A place lies in a text. -/
def Cursor.In (place : Cursor) (text : List Char) : Prop :=
  place.before.reverse ++ place.after = text

namespace Cursor

variable {place place' next : Cursor} {text : List Char} {c : Char}

/-- A place in a text is known by the number of characters left. -/
theorem In.eq_of_left (h : place.In text) (h' : place'.In text) (hleft : place.left = place'.left) :
    place = place' := by
  obtain ⟨before, after, left, rfl⟩ := place
  obtain ⟨before', after', left', rfl⟩ := place'
  obtain ⟨hbefore, rfl⟩ := List.append_inj' (h.trans h'.symm) hleft
  obtain rfl : before = before' := List.reverse_injective hbefore
  rfl

theorem next?_eq_some_iff : place.next? = some (c, next) ↔
    place.after = c :: next.after ∧ next.before = c :: place.before := by
  obtain ⟨before, after, left, rfl⟩ := place
  obtain ⟨before', after', left', rfl⟩ := next
  cases after with
  | nil => simp [next?]
  | cons d after =>
    simp only [next?, Option.some.injEq, Prod.mk.injEq, mk.injEq, List.cons.injEq, List.length_cons,
      Nat.add_sub_cancel]
    constructor
    · rintro ⟨rfl, rfl, rfl, -⟩
      exact ⟨⟨rfl, rfl⟩, rfl⟩
    · rintro ⟨⟨rfl, rfl⟩, rfl⟩
      exact ⟨rfl, rfl, rfl, rfl⟩

theorem next?_eq_none_iff : place.next? = none ↔ place.after = [] := by
  obtain ⟨before, after, left, rfl⟩ := place
  cases after <;> simp [next?]

theorem left_of_next? (h : place.next? = some (c, next)) : place.left = next.left + 1 := by
  rw [place.left_eq, next.left_eq, (next?_eq_some_iff.1 h).1, List.length_cons]

theorem In.next? (h : place.In text) (hnext : place.next? = some (c, next)) : next.In text := by
  obtain ⟨hafter, hbefore⟩ := next?_eq_some_iff.1 hnext
  rw [In, hafter] at h
  rw [In, hbefore, List.reverse_cons, List.append_assoc]
  exact h

end Cursor

/-! ## Simple patterns -/

/-- A pattern made of sets in a row, choices, groups, and rows of characters of one set. -/
inductive Simple where
  | empty
  | set (s : CharSet)
  | seq (first second : Simple)
  | choice (first second : Simple)
  | group (index : Nat) (body : Simple)
  /-- One or more characters of a set, as many as there are. -/
  | many (s : CharSet)

/-- What comes after a pattern in a search without marks. -/
abbrev Finder := Cursor → Spans → Option (Cursor × Spans)

namespace Simple

/-- The number of marks. -/
def marks : Simple → Nat
  | empty | set _ => 0
  | seq a b => a.marks + b.marks
  | choice a b => 1 + a.marks + b.marks
  | group _ a => a.marks
  | many _ => 1

/-- The plain form with marks from `n` on. -/
def toPlain (n : Nat) : Simple → Plain
  | empty => .empty
  | set s => .set s
  | seq a b => .seq (a.toPlain n) (b.toPlain (n + a.marks))
  | choice a b => .choice n (a.toPlain (n + 1)) (b.toPlain (n + 1 + a.marks))
  | group i a => .group i (a.toPlain n)
  | many s => .repeated n 1 1 none true (.set s)

/-- The place behind a character of a set. -/
def behind? (s : CharSet) (place : Cursor) : Option Cursor :=
  match place.next? with
  | some (c, next) => if s.has c then some next else none
  | none => none

/-- Go on behind up to some characters of a set, first behind as many as there are. -/
def scanRounds (s : CharSet) (k : Finder) :
    (rounds : Nat) → Cursor → Spans → Option (Cursor × Spans)
  | 0, _, _ => none
  | rounds + 1, place, spans =>
    ((behind? s place).bind fun next => scanRounds s k rounds next spans).or (k place spans)

/-- Search without marks. -/
def scan : Simple → Cursor → Spans → Finder → Option (Cursor × Spans)
  | empty, place, spans, k => k place spans
  | set s, place, spans, k => (behind? s place).bind fun next => k next spans
  | seq a b, place, spans, k => a.scan place spans fun place spans => b.scan place spans k
  | choice a b, place, spans, k => (a.scan place spans k).or (b.scan place spans k)
  | group i a, place, spans, k =>
    a.scan place spans fun stop spans => k stop ((i, ⟨place, stop⟩) :: spans)
  | many s, place, spans, k =>
    (behind? s place).bind fun next => scanRounds s k (next.left + 2) next spans

/-! ## Whether something is found -/

/-- Whether some way behind characters of a set leads to a place that is accepted. -/
def acceptsRounds (s : CharSet) (accepted : Cursor → Bool) : (rounds : Nat) → Cursor → Bool
  | 0, _ => false
  | rounds + 1, place =>
    (behind? s place).any (acceptsRounds s accepted rounds) || accepted place

/-- Whether some way through a pattern leads to a place that is accepted. -/
def accepts : Simple → (Cursor → Bool) → Cursor → Bool
  | empty, accepted, place => accepted place
  | set s, accepted, place => (behind? s place).any accepted
  | seq a b, accepted, place => a.accepts (b.accepts accepted) place
  | choice a b, accepted, place => a.accepts accepted place || b.accepts accepted place
  | group _ a, accepted, place => a.accepts accepted place
  | many s, accepted, place =>
    (behind? s place).any fun next => acceptsRounds s accepted (next.left + 2) next

variable {k : Finder} {accepted : Cursor → Bool}

theorem isSome_scanRounds (hk : ∀ place spans, (k place spans).isSome = accepted place)
    (s : CharSet) (rounds : Nat) (place : Cursor) (spans : Spans) :
    (scanRounds s k rounds place spans).isSome = acceptsRounds s accepted rounds place := by
  induction rounds generalizing place spans with
  | zero => rfl
  | succ rounds ih =>
    rw [scanRounds, acceptsRounds, Option.isSome_or, Option.isSome_bind, hk]
    simp only [ih]

/-- What groups have matched does not matter for whether something is found. -/
theorem isSome_scan (p : Simple) (hk : ∀ place spans, (k place spans).isSome = accepted place)
    (place : Cursor) (spans : Spans) :
    (p.scan place spans k).isSome = p.accepts accepted place := by
  induction p generalizing k accepted place spans with
  | empty => exact hk place spans
  | set s => rw [scan, accepts, Option.isSome_bind]; simp only [hk]
  | seq a b iha ihb => exact iha (fun place spans => ihb hk place spans) place spans
  | choice a b iha ihb => rw [scan, accepts, Option.isSome_or, iha hk, ihb hk]
  | group i a ih => exact ih (fun stop spans => hk stop _) place spans
  | many s =>
    rw [scan, accepts, Option.isSome_bind]
    simp only [isSome_scanRounds hk]

theorem scan_eq_none_iff (p : Simple) (hk : ∀ place spans, (k place spans).isSome = accepted place)
    {place : Cursor} {spans : Spans} :
    p.scan place spans k = none ↔ p.accepts accepted place = false := by
  rw [← isSome_scan p hk place spans, Option.isSome_eq_false_iff, Option.isNone_iff_eq_none]

/-! ## Dead marks -/

/-- A mark `m` of a pattern whose marks begin with `n`: from there on, at a place, nothing is found.
-/
def Dead (n m : Nat) (place : Cursor) : Simple → (Cursor → Bool) → Prop
  | empty, _ | set _, _ => False
  | seq a b, accepted =>
    a.Dead n m place (b.accepts accepted) ∨ b.Dead (n + a.marks) m place accepted
  | choice a b, accepted =>
    (m = n ∧ (choice a b).accepts accepted place = false) ∨ a.Dead (n + 1) m place accepted ∨
      b.Dead (n + 1 + a.marks) m place accepted
  | group _ a, accepted => a.Dead n m place accepted
  | many s, accepted => m = n ∧ acceptsRounds s accepted (place.left + 2) place = false

theorem Dead.bounds {n m : Nat} {place : Cursor} {p : Simple} (h : p.Dead n m place accepted) :
    n ≤ m ∧ m < n + p.marks := by
  induction p generalizing n accepted with
  | empty | set s => exact h.elim
  | seq a b iha ihb =>
    rw [marks]
    rcases h with h | h
    · have := iha h
      omega
    · have := ihb h
      omega
  | choice a b iha ihb =>
    rw [marks]
    -- The mark of the choice stands in front of those of its two ways.
    rcases h with ⟨rfl, -⟩ | h | h
    · omega
    · have := iha h
      omega
    · have := ihb h
      omega
  | group i a ih => exact ih h
  | many s =>
    obtain ⟨rfl, -⟩ := h
    rw [marks]
    omega

/-- **Marks that were passed**: each is dead, or it was left behind by a search that stands before
the mark `n` with `left` characters left. -/
def Sound (dead : Nat → Nat → Prop) (n left : Nat) (tried : Marks) : Prop :=
  ∀ m l, tried.contains (m, l) → dead m l ∨ left < l ∨ l = left ∧ m < n

/-- A trial ends as a search does, and if it fails it leaves no mark behind that is not dead. -/
inductive Settles (dead : Nat → Nat → Prop) (tried : Marks) :
    Trial → Option (Cursor × Spans) → Prop
  | found (stop : Cursor) (spans : Spans) :
      Settles dead tried (.found stop spans) (some (stop, spans))
  | failed {tried' : Marks}
      (h : ∀ m l, tried'.contains (m, l) → tried.contains (m, l) ∨ dead m l) :
      Settles dead tried (.failed tried') none

/-- From the mark `n` on, all trials in a text end as the searches do. -/
def Agrees (text : List Char) (dead : Nat → Nat → Prop) (n : Nat) (trial : Trial.Continuation)
    (search : Finder) : Prop :=
  ∀ place, place.In text → ∀ spans tried, Sound dead n place.left tried →
    Settles dead tried (trial place spans tried) (search place spans)

section

variable {text : List Char} {dead : Nat → Nat → Prop} {n n' left : Nat} {tried tried' : Marks}
  {place : Cursor}

theorem Sound.mono (h : Sound dead n left tried) (hn : n ≤ n') : Sound dead n' left tried := by
  intro m l hm
  rcases h m l hm with hdead | hleft | ⟨hleft, hm⟩
  · exact .inl hdead
  · exact .inr (.inl hleft)
  · exact .inr (.inr ⟨hleft, Nat.lt_of_lt_of_le hm hn⟩)

/-- Behind a character all open marks are left behind. -/
theorem Sound.next (h : Sound dead n (left + 1) tried) : Sound dead n' left tried := by
  intro m l hm
  rcases h m l hm with h | h | ⟨rfl, -⟩
  · exact .inl h
  · exact .inr (.inl (by omega))
  · exact .inr (.inl (by omega))

theorem Agrees.mono {trial : Trial.Continuation} {search : Finder}
    (h : Agrees text dead n' trial search) (hn : n ≤ n') : Agrees text dead n trial search :=
  fun place hplace spans tried htried => h place hplace spans tried (htried.mono hn)

theorem Sound.insert (h : Sound dead n left tried) :
    Sound dead (n + 1) left (tried.insert (n, left)) := by
  intro m l hm
  rw [Std.HashSet.contains_insert, Bool.or_eq_true, beq_iff_eq] at hm
  rcases hm with hm | hm
  · cases hm
    exact .inr (.inr ⟨rfl, n.lt_succ_self⟩)
  · exact h.mono n.le_succ m l hm

theorem Sound.of_settled (h : Sound dead n left tried)
    (hfail : ∀ m l, tried'.contains (m, l) → tried.contains (m, l) ∨ dead m l) :
    Sound dead n left tried' := fun m l hm =>
  (hfail m l hm).elim (h m l) .inl

theorem Settles.found_iff {stop : Cursor} {spans : Spans} {found : Option (Cursor × Spans)} :
    Settles dead tried (.found stop spans) found ↔ found = some (stop, spans) := by
  constructor
  · rintro ⟨⟩
    rfl
  · rintro rfl
    exact .found stop spans

/-- **Going on in two ways**: if both ways agree with a search, so does the fork, provided that its
mark is dead exactly where both ways fail. -/
theorem settles_fork {first second : Marks → Trial} {found found' : Option (Cursor × Spans)}
    (htried : Sound dead n left tried) (hdead : dead n left ↔ found.or found' = none)
    (hleft : place.left = left)
    (hfirst : ∀ tried, Sound dead (n + 1) left tried → Settles dead tried (first tried) found)
    (hsecond : ∀ tried, Sound dead (n + 1) left tried → Settles dead tried (second tried) found') :
    Settles dead tried (Trial.fork n place tried first second) (found.or found') := by
  subst hleft
  rw [Trial.fork]
  split
  · next hhere =>
    -- The mark was passed here before. It is not open, for the marks in use lie below it, so it is
    -- dead.
    have hnone : dead n place.left := by
      rcases htried n place.left hhere with h | h | ⟨-, h⟩
      · exact h
      · exact absurd h (Nat.lt_irrefl _)
      · exact absurd h (Nat.lt_irrefl _)
    rw [hdead.1 hnone]
    exact .failed fun m l hm => .inl hm
  · have h1 := hfirst _ htried.insert
    cases hf : first (tried.insert (n, place.left)) with
    | found stop spans =>
      rw [hf, Settles.found_iff] at h1
      rw [h1]
      exact .found stop spans
    | failed tried' =>
      rw [hf] at h1
      cases h1 with
      | failed h1 =>
      have h2 := hsecond _ (htried.insert.of_settled h1)
      rw [Option.none_or]
      show Settles dead tried (second tried') found'
      cases hs : second tried' with
      | found stop spans =>
        rw [hs, Settles.found_iff] at h2
        rw [h2]
        exact .found stop spans
      | failed tried'' =>
        rw [hs] at h2
        cases h2 with
        | failed h2 =>
        refine .failed fun m l hm => ?_
        -- Both ways failed: this is what it means for the own mark to be dead, and the others were
        -- passed before or died on the way.
        rcases h2 m l hm with hm | hm
        · rcases h1 m l hm with hm | hm
          · rw [Std.HashSet.contains_insert, Bool.or_eq_true, beq_iff_eq] at hm
            rcases hm with hm | hm
            · cases hm
              exact .inr (hdead.2 rfl)
            · exact .inl hm
          · exact .inr hm
        · exact .inr hm

theorem run_set (s : CharSet) (place : Cursor) (spans : Spans) (tried : Marks)
    (k : Trial.Continuation) :
    (Plain.set s).run 0 place spans tried k =
      match behind? s place with
      | some next => k next spans tried
      | none => .failed tried := by
  simp only [Plain.run, behind?]
  cases place.next? with
  | none => rfl
  | some cn =>
    obtain ⟨c, next⟩ := cn
    dsimp only
    cases s.has c <;> rfl

theorem behind?_eq_some {s : CharSet} {next : Cursor} (h : behind? s place = some next) :
    ∃ c, place.next? = some (c, next) ∧ s.has c := by
  rw [behind?] at h
  cases hnext : place.next? with
  | none =>
    rw [hnext] at h
    cases h
  | some cn =>
    obtain ⟨c, next'⟩ := cn
    rw [hnext] at h
    dsimp only at h
    split at h
    · next hs =>
      cases h
      exact ⟨c, rfl, hs⟩
    · cases h

/-- A character of a set: the trial agrees with the search if it does behind the character. -/
theorem settles_set {s : CharSet} {k : Trial.Continuation} {spans : Spans}
    {search : Cursor → Option (Cursor × Spans)} (hplace : place.In text)
    (htried : Sound dead n place.left tried)
    (h : ∀ next, place.left = next.left + 1 → next.In text →
      Sound dead n' next.left tried → Settles dead tried (k next spans tried) (search next)) :
    Settles dead tried ((Plain.set s).run 0 place spans tried k)
      ((behind? s place).bind search) := by
  rw [run_set]
  cases hnext : behind? s place with
  | none => exact .failed fun m l hm => .inl hm
  | some next =>
    obtain ⟨c, hnext, -⟩ := behind?_eq_some hnext
    have hleft := Cursor.left_of_next? hnext
    exact h next hleft (hplace.next? hnext) (hleft ▸ htried).next

/-- **Rounds of a set** agree with the search for as many characters as there are. -/
theorem settles_loop {s : CharSet} {k : Trial.Continuation} {search : Finder}
    {accepted : Cursor → Bool} (hk : ∀ place spans, (search place spans).isSome = accepted place)
    (hdead : ∀ place, place.In text →
      (dead n place.left ↔ acceptsRounds s accepted (place.left + 2) place = false))
    (h : Agrees text dead (n + 1) k search) (hplace : place.In text) (spans : Spans)
    (htried : Sound dead n place.left tried) :
    Settles dead tried
      (Trial.loop n true ((Plain.set s).run 0) (place.left + 2) place spans tried k)
      (scanRounds s search (place.left + 2) place spans) := by
  induction hl : place.left using Nat.strongRecOn generalizing place tried with
  | _ left ih =>
    -- Each round leaves fewer characters, and behind one all open marks are left behind, so that
    -- the same mark serves again.
    have hfork := hdead place hplace
    rw [← isSome_scanRounds hk s (place.left + 2) place spans, Option.isSome_eq_false_iff,
      Option.isNone_iff_eq_none] at hfork
    rw [hl] at hfork htried
    show Settles dead tried (Trial.fork n place tried
      (fun tried => (Plain.set s).run 0 place spans tried fun next spans tried =>
        Trial.loop n true ((Plain.set s).run 0) (left + 1) next spans tried k)
      fun tried => k place spans tried) _
    refine settles_fork htried hfork hl (fun tried htried => ?_) fun tried htried => ?_
    · refine settles_set hplace (hl ▸ htried) fun next hnextLeft hnext
          (hsound : Sound dead n next.left tried) => ?_
      have hlt : next.left < left := by omega
      have hloop := ih next.left hlt hnext hsound rfl
      rwa [show next.left + 2 = left + 1 by omega] at hloop
    · exact h place hplace spans tried (hl ▸ htried)

/-- **Marks do not change what is found** by a simple pattern. -/
theorem agrees_run (p : Simple) {n : Nat} {k : Trial.Continuation} {search : Finder}
    {accepted : Cursor → Bool} (hk : ∀ place spans, (search place spans).isSome = accepted place)
    (hdead : ∀ m place, place.In text → n ≤ m → m < n + p.marks →
      (dead m place.left ↔ p.Dead n m place accepted))
    (h : Agrees text dead (n + p.marks) k search) :
    Agrees text dead n (fun place spans tried => (p.toPlain n).run 0 place spans tried k)
      (fun place spans => p.scan place spans search) := by
  induction p generalizing n k search accepted with
  | empty => exact h
  | set s =>
    intro place hplace spans tried htried
    exact settles_set hplace htried fun next _ hnext hsound => h next hnext spans tried hsound
  | seq a b iha ihb =>
    rw [marks, ← Nat.add_assoc] at h
    have hb := ihb hk (fun m place hplace hlow hhigh => ?_) h
    -- The marks of the two parts do not overlap, so a mark can only be dead in its own part.
    · refine iha (isSome_scan b hk) (fun m place hplace hlow hhigh => ?_) hb
      rw [hdead m place hplace hlow (by rw [marks]; omega), Dead]
      refine or_iff_left fun hdead => ?_
      have := hdead.bounds
      omega
    · rw [hdead m place hplace (by omega) (by rw [marks]; omega), Dead]
      refine or_iff_right fun hdead => ?_
      have := hdead.bounds
      omega
  | choice a b iha ihb =>
    have hmarks : n + (choice a b).marks = n + 1 + a.marks + b.marks := by
      rw [marks]
      omega
    rw [hmarks] at h
    have ha := iha hk (fun m place hplace hlow hhigh => ?_) (h.mono (Nat.le_add_right _ b.marks))
    have hb := ihb hk (fun m place hplace hlow hhigh => ?_) h
    · intro place hplace spans tried htried
      -- The mark of the choice itself lies in front of those inside, and is dead exactly if both
      -- ways fail.
      have hhere : dead n place.left ↔ (choice a b).scan place spans search = none := by
        rw [scan_eq_none_iff _ hk, hdead n place hplace (Nat.le_refl n) (by omega), Dead]
        refine (or_iff_left fun hinside => ?_).trans (and_iff_right rfl)
        rcases hinside with hinside | hinside <;> have := hinside.bounds <;> omega
      show Settles dead tried (Trial.fork n place tried
        (fun tried => (a.toPlain (n + 1)).run 0 place spans tried k)
        fun tried => (b.toPlain (n + 1 + a.marks)).run 0 place spans tried k) _
      refine settles_fork htried hhere rfl (fun tried htried => ?_) fun tried htried => ?_
      · exact ha place hplace spans tried htried
      · exact hb place hplace spans tried (htried.mono (by omega))
    · rw [hdead m place hplace (by omega) (by omega), Dead]
      refine (or_iff_right (by omega)).trans (or_iff_right fun hinside => ?_)
      have := hinside.bounds
      omega
    · rw [hdead m place hplace (by omega) (by omega), Dead]
      refine (or_iff_right (by omega)).trans (or_iff_left fun hinside => ?_)
      have := hinside.bounds
      omega
  | group i a ih =>
    intro place hplace spans tried htried
    have hinner : Agrees text dead (n + a.marks)
        (fun stop spans tried => k stop ((i, ⟨place, stop⟩) :: spans) tried)
        (fun stop spans => search stop ((i, ⟨place, stop⟩) :: spans)) :=
      fun stop hstop spans tried htried => h stop hstop _ tried htried
    exact ih (fun stop spans => hk stop _) hdead hinner place hplace spans tried htried
  | many s =>
    intro place hplace spans tried htried
    show Settles dead tried ((Plain.set s).run 0 place spans tried fun next spans tried =>
      Trial.loop n true ((Plain.set s).run 0) (next.left + 2) next spans tried k) _
    refine settles_set hplace htried fun next _ hnext (hsound : Sound dead n next.left tried) => ?_
    refine settles_loop hk (fun place hplace => ?_) h hnext spans hsound
    rw [hdead n place hplace (Nat.le_refl n) (by rw [marks]; omega), Dead]
    exact and_iff_right rfl

end

end Simple

/-! ## Whole searches -/

/-- The first answer at a place or at one of `further` places after it. -/
def firstFrom {α : Type} (answer : Cursor → Option α) : (further : Nat) → Cursor → Option α
  | 0, place => answer place
  | further + 1, place =>
    (answer place).or (place.next?.bind fun (_, next) => firstFrom answer further next)

namespace Simple

/-- The match at a place. -/
def matchAt (p : Simple) (place : Cursor) : Option (Span × Spans) :=
  (p.scan place [] fun stop spans => some (stop, spans)).map fun (stop, spans) =>
    (⟨place, stop⟩, spans)

/-- The marks of a pattern that are dead at a place of a text, if nothing comes after the pattern.
-/
def deadIn (p : Simple) (text : List Char) (m left : Nat) : Prop :=
  ∃ place, place.In text ∧ place.left = left ∧ p.Dead 0 m place fun _ => true

variable {text : List Char} {place : Cursor} {tried : Marks}

theorem settles_tryAt (p : Simple) (hplace : place.In text)
    (htried : Sound (p.deadIn text) 0 place.left tried) :
    Settles (p.deadIn text) tried ((p.toPlain 0).tryAt place tried)
      (p.scan place [] fun stop spans => some (stop, spans)) := by
  have hdead : ∀ m here, here.In text → 0 ≤ m → m < 0 + p.marks →
      (p.deadIn text m here.left ↔ p.Dead 0 m here fun _ => true) := by
    intro m here hhere _ _
    constructor
    · rintro ⟨there, hthere, hleft, hdead⟩
      rwa [hhere.eq_of_left hthere hleft.symm]
    · exact fun hdead => ⟨here, hhere, rfl, hdead⟩
  let search : Finder := fun stop spans => some (stop, spans)
  have hsearch : ∀ stop spans, (search stop spans).isSome = true := fun _ _ => rfl
  have hend : Agrees text (p.deadIn text) (0 + p.marks) (fun stop spans _ => .found stop spans)
      search := fun stop _ spans _ _ => .found stop spans
  exact agrees_run p hsearch hdead hend place hplace [] tried htried

theorem go_toPlain (p : Simple) (further : Nat) (hplace : place.In text)
    (htried : Sound (p.deadIn text) 0 place.left tried) :
    Plain.seek.go (p.toPlain 0) further place tried = firstFrom p.matchAt further place := by
  induction further generalizing place tried with
  | zero =>
    have htrial := settles_tryAt p hplace htried
    rw [Plain.seek.go.eq_def, firstFrom, matchAt]
    generalize (p.scan place [] fun stop spans => some (stop, spans)) = found at htrial
    generalize (p.toPlain 0).tryAt place tried = trial at htrial
    cases htrial <;> rfl
  | succ further ih =>
    have htrial := settles_tryAt p hplace htried
    rw [Plain.seek.go.eq_def, firstFrom, matchAt]
    generalize (p.scan place [] fun stop spans => some (stop, spans)) = found at htrial
    generalize (p.toPlain 0).tryAt place tried = trial at htrial
    cases htrial with
    | found stop spans => rfl
    | @failed tried' hfail =>
      cases hnext : place.next? with
      | none => rfl
      | some cn =>
        obtain ⟨c, next⟩ := cn
        -- The marks that the failed trial left are kept, and the next place lies behind them.
        have hsound := htried.of_settled hfail
        rw [Cursor.left_of_next? hnext] at hsound
        exact ih (hplace.next? hnext) hsound.next

/-- **A simple pattern is searched for** as if nothing were remembered. -/
theorem seek_toPlain (p : Simple) (place : Cursor) :
    (p.toPlain 0).seek place ∅ = firstFrom p.matchAt place.left place := by
  have hplace : place.In (place.before.reverse ++ place.after) := rfl
  refine go_toPlain p place.left hplace fun m l hm => ?_
  rw [Std.HashSet.contains_empty] at hm
  cases hm

end Simple

end Phrasebook.Regex
