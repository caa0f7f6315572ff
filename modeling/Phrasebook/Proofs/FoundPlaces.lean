import Mathlib.Data.List.Basic
import Phrasebook.Proofs.PlainSearch

/-!
# Where matches lie

A search hands the places that it reaches to a continuation. So what it ends with is settled by what
the continuation ends with, at places that the search can reach.

**Plain patterns** (`Trial.Advances`). A plain pattern only goes forward: every place that it
reaches lies in the text, and not in front of where it was tried.

**Programs** (`Program.Stays`). A program may look behind, but it stays in the text, and so do the
bounds of its groups.

Main results: `find_in` for every regular expression, and `find_whole` for those that are matched as
a whole.
-/

namespace Phrasebook.Regex

variable {text : List Char}

/-! ## More places of one text -/

namespace Cursor

variable {place place' : Cursor} {c : Char}

theorem in_ofText (text : List Char) : (ofText text).In text :=
  rfl

theorem In.back? (h : place.In text) (hback : place.back? = some place') : place'.In text := by
  obtain ⟨before, after, left, hleft⟩ := place
  cases before with
  | nil => cases hback
  | cons c before =>
    cases hback
    simpa [In] using h

theorem In.goBack? {n : Nat} (h : place.In text) (hback : place.goBack? n = some place') :
    place'.In text := by
  induction n generalizing place with
  | zero =>
    cases hback
    exact h
  | succ n ih =>
    obtain ⟨back, hone, hmore⟩ := Option.bind_eq_some_iff.1 hback
    exact ih (h.back? hone) hmore

theorem In.skip? {cs : List Char} (h : place.In text) (hskip : place.skip? cs = some place') :
    place'.In text := by
  induction cs generalizing place with
  | nil =>
    cases hskip
    exact h
  | cons d ds ih =>
    rw [Cursor.skip?] at hskip
    split at hskip
    · next c next hnext =>
      split at hskip
      · exact ih (h.next? hnext) hskip
      · cases hskip
    · cases hskip

end Cursor

/-! ## Plain patterns -/

/-- All spans lie in a text. -/
def Spans.In (spans : Spans) (text : List Char) : Prop :=
  ∀ e ∈ spans, e.2.start.In text ∧ e.2.stop.In text

namespace Trial

/-- A trial that finds something finds what has a property. -/
def Ends (P : Cursor → Spans → Prop) : Trial → Prop
  | found stop spans => P stop spans
  | failed _ => True

/-- A runner hands on places of the text only, and none in front of where it began. -/
def Advances (text : List Char) (run : Runner) : Prop :=
  ∀ (P : Cursor → Spans → Prop) place spans tried k, place.In text → spans.In text →
    (∀ stop spans tried, stop.In text → stop.left ≤ place.left → spans.In text →
      (k stop spans tried).Ends P) →
    (run place spans tried k).Ends P

variable {P : Cursor → Spans → Prop} {first second : Runner}

theorem ends_orElse {trial : Trial} {other : Marks → Trial} (htrial : trial.Ends P)
    (hother : ∀ tried, (other tried).Ends P) : (trial.orElse other).Ends P := by
  cases trial with
  | found stop spans => exact htrial
  | failed tried => exact hother tried

theorem ends_fork {one other : Marks → Trial} (hone : ∀ tried, (one tried).Ends P)
    (hother : ∀ tried, (other tried).Ends P) (mark : Nat) (place : Cursor) (tried : Marks) :
    (fork mark place tried one other).Ends P := by
  rw [fork]
  split
  · trivial
  · exact ends_orElse (hone _) hother

theorem advances_stay : Advances text fun place spans tried k => k place spans tried :=
  fun _ place spans tried _ hplace hspans hk => hk place spans tried hplace (Nat.le_refl _) hspans

theorem advances_failed : Advances text fun _ _ tried _ => failed tried :=
  fun _ _ _ _ _ _ _ _ => trivial

theorem Advances.andThen (hfirst : Advances text first) (hsecond : Advances text second) :
    Advances text (andThen first second) := by
  intro P place spans tried k hplace hspans hk
  refine hfirst P place spans tried _ hplace hspans fun stop spans tried hstop hle hspans => ?_
  refine hsecond P stop spans tried k hstop hspans fun stop' spans tried hstop' hle' hspans => ?_
  exact hk stop' spans tried hstop' (Nat.le_trans hle' hle) hspans

theorem Advances.forkRound (h : Advances text first) (mark : Nat) (greedy : Bool) :
    Advances text (forkRound mark greedy first) := by
  intro P place spans tried k hplace hspans hk
  have hround : ∀ tried, (first place spans tried k).Ends P :=
    fun tried => h P place spans tried k hplace hspans hk
  have hstop : ∀ tried, (k place spans tried).Ends P :=
    fun tried => hk place spans tried hplace (Nat.le_refl _) hspans
  cases greedy with
  | true => exact ends_fork hround hstop mark place tried
  | false => exact ends_fork hstop hround mark place tried

theorem advances_copies {body : Nat → Runner} (h : ∀ copy, Advances text (body copy))
    (first n : Nat) : Advances text (copies body first n) := by
  induction n generalizing first with
  | zero => exact advances_stay
  | succ n ih => exact (h first).andThen (ih (first + 1))

theorem advances_upTo {mark : Nat → Nat} {greedy : Bool} {body : Nat → Runner}
    (h : ∀ copy, Advances text (body copy)) (first n : Nat) :
    Advances text (upTo mark greedy body first n) := by
  induction n generalizing first with
  | zero => exact advances_stay
  | succ n ih => exact ((h first).andThen (ih (first + 1))).forkRound _ _

theorem Advances.loop (h : Advances text first) (mark : Nat) (greedy : Bool) (rounds : Nat) :
    Advances text (loop mark greedy first rounds) := by
  induction rounds with
  | zero => exact advances_failed
  | succ rounds ih => exact (h.andThen ih).forkRound mark greedy

theorem Advances.loopHere (h : Advances text first) (mark : Nat) (greedy : Bool) :
    Advances text (loopHere mark greedy first) :=
  fun P place => h.loop mark greedy (place.left + 2) P place

end Trial

namespace Plain

open Trial

/-- **A plain pattern goes forward.** -/
theorem advances_run (p : Plain) (shift : Nat) : Advances text (p.run shift) := by
  induction p generalizing shift with
  | empty => exact advances_stay
  | set s =>
    intro P place spans tried k hplace hspans hk
    simp only [run]
    split
    · next c next hnext =>
      split
      · have hleft := Cursor.left_of_next? hnext
        exact hk next spans tried (hplace.next? hnext) (by omega) hspans
      · trivial
    · trivial
  | anchor a =>
    intro P place spans tried k hplace hspans hk
    simp only [run]
    split
    · exact hk place spans tried hplace (Nat.le_refl _) hspans
    · trivial
  | seq a b iha ihb => exact (iha shift).andThen (ihb shift)
  | choice mark a b iha ihb =>
    intro P place spans tried k hplace hspans hk
    exact ends_fork (fun tried => iha shift P place spans tried k hplace hspans hk)
      (fun tried => ihb shift P place spans tried k hplace hspans hk) _ place tried
  | group i a ih =>
    intro P place spans tried k hplace hspans hk
    -- The only span that is new runs between two places of the text.
    refine ih shift P place spans tried _ hplace hspans fun stop spans tried hstop hle hspans => ?_
    exact hk stop _ tried hstop hle (List.forall_mem_cons.2 ⟨⟨hplace, hstop⟩, hspans⟩)
  | repeated mark stride low high greedy a ih =>
    -- Copies differ only in their marks, so the induction hypothesis serves them all.
    have hbody (copy : Nat) : Advances text (a.run (shift + copy * stride)) := ih _
    cases high with
    | some high => exact (advances_copies hbody 0 _).andThen (advances_upTo hbody _ _)
    | none =>
      cases low with
      | zero => exact (hbody 0).loopHere _ greedy
      | succ n => exact (advances_copies hbody 0 _).andThen ((hbody n).loopHere _ greedy)

variable {p : Plain} {place stop : Cursor} {spans : Spans} {tried : Marks} {whole : Span}

theorem in_of_tryAt (hplace : place.In text) (h : p.tryAt place tried = .found stop spans) :
    stop.In text ∧ stop.left ≤ place.left ∧ spans.In text := by
  have hends := p.advances_run 0
    (fun stop spans => stop.In text ∧ stop.left ≤ place.left ∧ spans.In text) place [] tried
    (fun stop spans _ => .found stop spans) hplace nofun
    fun stop spans tried hstop hle hspans => ⟨hstop, hle, hspans⟩
  rw [tryAt] at h
  rwa [h] at hends

theorem in_of_go {further : Nat} (hplace : place.In text)
    (h : seek.go p further place tried = some (whole, spans)) :
    whole.start.In text ∧ whole.start.left ≤ place.left ∧ whole.stop.In text ∧
      whole.stop.left ≤ whole.start.left := by
  induction further generalizing place tried with
  | zero =>
    rw [seek.go.eq_def] at h
    split at h
    · next hfound =>
      cases h
      obtain ⟨hstop, hle, -⟩ := in_of_tryAt hplace hfound
      exact ⟨hplace, Nat.le_refl _, hstop, hle⟩
    · next heq _ => cases heq
    · cases h
  | succ further ih =>
    rw [seek.go.eq_def] at h
    split at h
    · next hfound =>
      cases h
      obtain ⟨hstop, hle, -⟩ := in_of_tryAt hplace hfound
      exact ⟨hplace, Nat.le_refl _, hstop, hle⟩
    · next hfurther hnext =>
      cases hfurther
      obtain ⟨hstart, hle, hstop⟩ := ih (hplace.next? hnext) h
      have hleft := Cursor.left_of_next? hnext
      exact ⟨hstart, by omega, hstop⟩
    · cases h

end Plain

/-! ## Programs -/

/-- Bounds that are set lie in a text. -/
def Bounds.In (b : Bounds) (text : List Char) : Prop :=
  (∀ start, b.start = some start → start.In text) ∧ ∀ stop, b.stop = some stop → stop.In text

/-- The place of a moment and all bounds lie in a text. -/
structure Moment.In (m : Moment) (text : List Char) : Prop where
  place : m.place.In text
  groups : ∀ e ∈ m.groups, e.2.In text

namespace Moment

variable {m : Moment} {place : Cursor} {b : Bounds} {i : Nat}

theorem In.boundsOf (h : m.In text) (i : Nat) : (m.boundsOf i).In text := by
  rw [Moment.boundsOf]
  cases hlookup : m.groups.lookup i with
  | none => exact ⟨nofun, nofun⟩
  | some b =>
    obtain ⟨l, l', heq, -⟩ := List.lookup_eq_some_iff.1 hlookup
    exact h.groups (i, b) (by simp [heq])

theorem In.setBounds (h : m.In text) (hb : b.In text) : (m.setBounds i b).In text where
  place := h.place
  groups := List.forall_mem_cons.2 ⟨hb, fun e he => h.groups e (List.mem_filter.1 he).1⟩

theorem In.beginGroup (h : m.In text) (i : Nat) : (m.beginGroup i).In text := by
  refine h.setBounds ⟨fun start hstart => ?_, (h.boundsOf i).2⟩
  cases hstart
  exact h.place

theorem In.endGroup (h : m.In text) (i : Nat) : (m.endGroup i).In text := by
  refine h.setBounds ⟨(h.boundsOf i).1, fun stop hstop => ?_⟩
  cases hstop
  exact h.place

theorem In.setSpans {spans : Spans} (h : m.In text) (hspans : spans.In text) (groups : List Nat) :
    (m.setSpans spans groups).In text := by
  induction groups generalizing m with
  | nil => exact h
  | cons i groups ih =>
    refine ih (h.setBounds ?_)
    cases hlookup : spans.lookup i with
    | none => exact ⟨nofun, nofun⟩
    | some s =>
      obtain ⟨l, l', heq, -⟩ := List.lookup_eq_some_iff.1 hlookup
      have hs : s.start.In text ∧ s.stop.In text := hspans (i, s) (by simp [heq])
      refine ⟨fun start hstart => ?_, fun stop hstop => ?_⟩
      · cases hstart
        exact hs.1
      · cases hstop
        exact hs.2

theorem In.closeScope (h : m.In text) : m.closeScope.In text := by
  rw [Moment.closeScope]
  split
  · exact ⟨h.place, h.groups⟩
  · exact h

end Moment

/-- A run that finds something finds a moment in a text. -/
def Outcome.In (text : List Char) : Outcome → Prop
  | found m => m.In text
  | failed .. | gaveUp => True

namespace Program

/-- A runner in a text hands on moments in the text. -/
def Stays (text : List Char) (run : Runner) : Prop :=
  ∀ m k, m.In text → (∀ m', m'.In text → (k m').In text) → (run m k).In text

variable {m : Moment} {k : Continuation} {body : Runner}

theorem in_choose {first second : Moment → Outcome} (hm : m.In text)
    (hfirst : ∀ m', m'.In text → (first m').In text)
    (hsecond : ∀ m', m'.In text → (second m').In text) : (choose m first second).In text := by
  rw [choose]
  split
  · have hone := hfirst { m with level := m.level + 1 } ⟨hm.place, hm.groups⟩
    split
    · split
      · trivial
      · split
        · exact hsecond _ ⟨hm.place, hm.groups⟩
        · trivial
    · exact hone
  · trivial

theorem in_chooseRound {round stop : Moment → Outcome} (greedy : Bool) (hm : m.In text)
    (hround : ∀ m', m'.In text → (round m').In text)
    (hstop : ∀ m', m'.In text → (stop m').In text) :
    (chooseRound greedy m round stop).In text := by
  cases greedy with
  | true => exact in_choose hm hround hstop
  | false => exact in_choose hm hstop hround

theorem Stays.runStar (h : Stays text body) (greedy : Bool) (rounds : Nat) :
    Stays text (runStar greedy body rounds) := by
  induction rounds with
  | zero => exact fun _ _ _ _ => trivial
  | succ rounds ih =>
    intro m k hm hk
    exact in_chooseRound greedy hm (fun m' hm' => h m' _ hm' fun m'' hm'' => ih m'' k hm'' hk) hk

theorem Stays.runCounted (h : Stays text body) (low : Nat) (high : Option Nat) (greedy : Bool)
    (rounds count : Nat) : Stays text (runCounted low high greedy body rounds count) := by
  induction rounds generalizing count with
  | zero => exact fun _ _ _ _ => trivial
  | succ rounds ih =>
    intro m k hm hk
    have hround : ∀ m', m'.In text → (body m' fun m =>
        Program.runCounted low high greedy body rounds (count + 1) m k).In text :=
      fun m' hm' => h m' _ hm' fun m'' hm'' => ih (count + 1) m'' k hm'' hk
    rw [Program.runCounted]
    split
    · exact hk m hm
    · split
      · exact hround m hm
      · exact in_chooseRound greedy hm hround hk

theorem Stays.runGuarded (h : Stays text body) (number low : Nat) (greedy : Bool)
    (rounds count : Nat) : Stays text (runGuarded number low greedy body rounds count) := by
  induction rounds generalizing count with
  | zero => exact fun _ _ _ _ => trivial
  | succ rounds ih =>
    intro m k hm hk
    have hround : ∀ m', m'.In text → (body m' fun m =>
        Program.runGuarded number low greedy body rounds (count + 1) m k).In text :=
      fun m' hm' => h m' _ hm' fun m'' hm'' => ih (count + 1) m'' k hm'' hk
    simp only [Program.runGuarded]
    split
    · trivial
    · split
      · exact hround m hm
      · exact in_chooseRound greedy ⟨hm.place, hm.groups⟩ hround hk

/-- **A program stays in the text.** -/
theorem stays_run (start : Option Cursor) (p : Program) : Stays text (p.run start) := by
  induction p with
  | empty => exact fun m k hm hk => hk m hm
  | text cs =>
    intro m k hm hk
    simp only [run]
    split
    · next place hskip => exact hk _ ⟨hm.place.skip? hskip, hm.groups⟩
    · trivial
  | any newline =>
    intro m k hm hk
    simp only [run]
    split
    · next c place hnext =>
      split
      · exact hk _ ⟨hm.place.next? hnext, hm.groups⟩
      · trivial
    · trivial
  | anchor a =>
    intro m k hm hk
    simp only [run]
    split
    · exact hk m hm
    · trivial
  | part groups p =>
    intro m k hm hk
    simp only [run]
    split
    · next place spans hfound =>
      obtain ⟨hplace, -, hspans⟩ := Plain.in_of_tryAt hm.place hfound
      have hmoved : Moment.In { m with place } text := ⟨hplace, hm.groups⟩
      exact hk _ (hmoved.setSpans hspans groups)
    · trivial
  | seq a b iha ihb =>
    intro m k hm hk
    exact iha m _ hm fun m' hm' => ihb m' k hm' hk
  | choice a b iha ihb =>
    intro m k hm hk
    -- A way that fails gives its groups up, so the second begins where the first began.
    exact in_choose hm (fun m' hm' => iha m' k hm' hk) fun m' hm' => ihb m' k hm' hk
  | group i a ih =>
    intro m k hm hk
    exact ih _ _ (hm.beginGroup i) fun m' hm' => hk _ (hm'.endGroup i)
  | star greedy a ih => exact Stays.runStar ih greedy _
  | counted low high greedy a ih => exact Stays.runCounted ih low high greedy _ 0
  | guarded number low greedy a ih => exact Stays.runGuarded ih number low greedy _ 0
  | look negated a ih =>
    intro m k hm hk
    cases negated with
    | false => exact ih m _ hm fun after hafter => hk _ ⟨hm.place, hafter.groups⟩
    | true =>
      simp only [run]
      -- What a negated look finds is turned into a failure, so that nothing is asked of it.
      refine in_choose hm (fun m' hm' => ?_) hk
      exact ih m' (fun after => .failed m.level after.steps) hm' fun _ _ => trivial
  | behind n a ih =>
    intro m k hm hk
    simp only [run]
    split
    · next place hback => exact ih _ k ⟨hm.place.goBack? hback, hm.groups⟩ hk
    · trivial
  | backreference i =>
    intro m k hm hk
    simp only [run]
    split
    · split
      · next place hskip => exact hk _ ⟨hm.place.skip? hskip, hm.groups⟩
      · trivial
    · trivial
  | begun i =>
    intro m k hm hk
    simp only [run]
    split
    · exact hk m hm
    · trivial
  | atomic a ih =>
    intro m k hm hk
    exact ih _ _ ⟨hm.place, hm.groups⟩ fun m' hm' => hk _ hm'.closeScope
  | keep => exact fun m k hm hk => hk _ (hm.beginGroup 0)
  | resume =>
    intro m k hm hk
    simp only [run]
    split
    · exact hk m hm
    · trivial
  | conditional test yes no ihtest ihyes ihno =>
    intro m k hm hk
    -- Scopes are opened and closed by counts alone: no place is touched.
    have hopen : m.openScope.In text := ⟨hm.place, hm.groups⟩
    simp only [run]
    refine in_choose hopen (fun m' hm' => ?_) fun m' hm' => ihno m' k hm' hk
    exact ihtest m' _ hm' fun m'' hm'' => ihyes _ k hm''.closeScope hk

theorem in_seek (p : Program) (start : Option Cursor) (further : Nat) (hm : m.In text) :
    (p.seek start further m).In text := by
  have hwhole : ∀ m', m'.In text → (p.runWhole start m').In text :=
    fun m' hm' => stays_run start (group 0 p) m' .found hm' fun _ hfound => hfound
  induction further generalizing m with
  | zero => exact in_choose hm hwhole fun _ _ => trivial
  | succ further ih =>
    refine in_choose hm hwhole fun m' hm' => ?_
    cases hnext : m'.place.next? with
    | none => trivial
    | some cn => exact ih ⟨hm'.place.next? hnext, hm'.groups⟩

end Program

/-! ## Searches -/

variable {r : Regex} {passed : Bool} {place : Cursor} {caps : Captures}

theorem Captures.in_ofMoment {m : Moment} (hm : m.In text) :
    (ofMoment m).whole.start.In text ∧ (ofMoment m).whole.stop.In text := by
  have hbound {c : Option Cursor} (hc : ∀ place, c = some place → place.In text) :
      (c.getD m.place).In text := by
    cases c with
    | none => exact hm.place
    | some place => exact hc place rfl
  obtain ⟨hstart, hstop⟩ := hm.boundsOf 0
  refine ⟨?_, hbound hstop⟩
  rw [ofMoment]
  dsimp only
  split
  · exact hbound hstop
  · exact hbound hstart

/-- **A match lies in the text.** -/
theorem find_in (hplace : place.In text) (h : r.find passed place = .hit caps) :
    caps.whole.start.In text ∧ caps.whole.stop.In text := by
  rw [find] at h
  split at h
  · split at h
    · next hseek =>
      cases h
      obtain ⟨hstart, -, hstop, -⟩ := Plain.in_of_go hplace hseek
      exact ⟨hstart, hstop⟩
    · cases h
  · next p _ =>
    have hm : Moment.In { place } text := ⟨hplace, nofun⟩
    have hends := p.in_seek (if passed && r.resumes then none else some place) place.left hm
    dsimp only at h
    split at h
    · next m hfound =>
      cases h
      rw [hfound] at hends
      exact Captures.in_ofMoment hends
    · cases h
    · cases h

/-- **A match of an expression that is matched as a whole** begins at the place of the search or
behind it, and ends where it begins or behind that. -/
theorem find_whole {p : Plain} (hwhole : r.method = .whole p)
    (h : r.find passed place = .hit caps) :
    caps.whole.start.left ≤ place.left ∧ caps.whole.stop.left ≤ caps.whole.start.left := by
  rw [find, hwhole] at h
  dsimp only at h
  split at h
  · next hseek =>
    cases h
    have hplace : place.In (place.before.reverse ++ place.after) := rfl
    obtain ⟨-, hle, -, hle'⟩ := Plain.in_of_go hplace hseek
    exact ⟨hle, hle'⟩
  · cases h

end Phrasebook.Regex
