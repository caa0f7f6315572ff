import Phrasebook.Proofs.CompiledMapping

/-!
# Normal forms of replacements

**Reading** (`Front`, `Fault`). What a replacement starts with: a character, a dollar, the whole
match or a group, and what is left behind it; or a number that no group has. Every replacement that
is not empty starts with exactly one of these, so reading goes from front to front
(`frontInduction`).

**Meaning** (`Means`). What a replacement says when the groups have matched texts, front by front.
It is said of the replacement itself and not of the template that is read from it.

**Normal forms** (`Normal`, `Expands`). In the written form of a template each dollar is one of two,
or starts a group in braces. Such a form is expanded without a look at the number of groups: a
number ends at its closing brace.

Main result: `normalForm_exact`. A replacement without a fault has a normal form that says the same.
-/

namespace Phrasebook.Speech

open Number (digitValue digitsText)

namespace Template

/-! ## What a replacement starts with -/

/-- A number of one of `groups` groups. -/
def IsGroup (groups n : Nat) : Prop :=
  1 ≤ n ∧ n ≤ groups

instance (groups n : Nat) : Decidable (IsGroup groups n) :=
  inferInstanceAs (Decidable (1 ≤ n ∧ n ≤ groups))

/-- Behind a digit comes another one, and together they are the number of a group. -/
def TwoDigits (groups : Nat) (c : Char) (cs : List Char) : Prop :=
  ∃ d rest, cs = d :: rest ∧ d.isDigit ∧ IsGroup groups (10 * digitValue c + digitValue d)

/-- The part that a replacement starts with, and what is left behind it. -/
inductive Front (groups : Nat) : List Char → Part → List Char → Prop
  | char {c : Char} {rest : List Char} : c ≠ '$' → Front groups (c :: rest) (.char c) rest
  | dollar {rest : List Char} : Front groups ('$' :: '$' :: rest) (.char '$') rest
  | whole {rest : List Char} : Front groups ('$' :: '&' :: rest) (.group 0) rest
  | two {c d : Char} {rest : List Char} : c.isDigit → d.isDigit →
      IsGroup groups (10 * digitValue c + digitValue d) →
      Front groups ('$' :: c :: d :: rest) (.group (10 * digitValue c + digitValue d)) rest
  | one {c : Char} {rest : List Char} : c.isDigit → ¬ TwoDigits groups c rest →
      IsGroup groups (digitValue c) → Front groups ('$' :: c :: rest) (.group (digitValue c)) rest
  | lone {rest : List Char} : (∀ c ∈ rest.head?, c ≠ '$' ∧ c ≠ '&' ∧ ¬ c.isDigit) →
      Front groups ('$' :: rest) (.char '$') rest

/-- A replacement starts with a number that no group has. -/
inductive Fault (groups : Nat) : List Char → Nat → Prop
  | missing {c : Char} {rest : List Char} : c.isDigit → ¬ TwoDigits groups c rest →
      ¬ IsGroup groups (digitValue c) → Fault groups ('$' :: c :: rest) (digitValue c)

variable {groups n : Nat} {c : Char} {cs rest : List Char} {p : Part} {t : Template}

theorem not_special_of_isDigit (h : c.isDigit) : c ≠ '$' ∧ c ≠ '&' := by
  refine ⟨?_, ?_⟩
  · rintro rfl
    simp at h
  · rintro rfl
    simp at h

/-- A digit that stands for a group alone. -/
theorem read_digit (hc : c.isDigit) (htwo : ¬ TwoDigits groups c rest) :
    read groups ('$' :: c :: rest) =
      if IsGroup groups (digitValue c) then (read groups rest).map (.group (digitValue c) :: ·)
      else .error (.missingGroup (digitValue c) groups) := by
  obtain ⟨hdollar, hwhole⟩ := not_special_of_isDigit hc
  rw [read, if_neg hdollar, if_neg hwhole, if_pos hc]
  cases rest with
  | nil => rfl
  | cons d after =>
    have hnot : ¬ (d.isDigit ∧ 1 ≤ 10 * digitValue c + digitValue d ∧
        10 * digitValue c + digitValue d ≤ groups) :=
      fun ⟨hd, hgroup⟩ => htwo ⟨d, after, rfl, hd, hgroup⟩
    exact if_neg hnot

/-- **Reading takes the front off.** -/
theorem read_of_front (h : Front groups cs p rest) :
    read groups cs = (read groups rest).map (p :: ·) := by
  cases h with
  | char hc => rw [read.eq_4 _ _ _ (fun h => absurd h hc) (fun _ _ h => absurd h hc)]
  | dollar => rw [read, if_pos rfl]
  | whole => rw [read, if_neg (by decide), if_pos rfl]
  | two hc hd hgroup =>
    obtain ⟨hdollar, hwhole⟩ := not_special_of_isDigit hc
    rw [read, if_neg hdollar, if_neg hwhole, if_pos hc]
    exact if_pos ⟨hd, hgroup⟩
  | one hc htwo hgroup => rw [read_digit hc htwo, if_pos hgroup]
  | lone h =>
    cases rest with
    | nil => rfl
    | cons c rest =>
      obtain ⟨hdollar, hwhole, hdigit⟩ := h c rfl
      rw [read, if_neg hdollar, if_neg hwhole, if_neg hdigit]

theorem read_of_fault (h : Fault groups cs n) :
    read groups cs = .error (.missingGroup n groups) := by
  cases h with
  | missing hc htwo hgroup => rw [read_digit hc htwo, if_neg hgroup]

/-- **A replacement starts with a front or a fault.** -/
theorem front_or_fault (groups : Nat) (c : Char) (cs : List Char) :
    (∃ p rest, Front groups (c :: cs) p rest ∧ rest.length ≤ cs.length) ∨
      ∃ n, Fault groups (c :: cs) n := by
  by_cases hc : c = '$'
  · subst hc
    cases cs with
    | nil => exact .inl ⟨_, _, .lone nofun, Nat.le_refl _⟩
    | cons d cs =>
      by_cases hdollar : d = '$'
      · subst hdollar
        exact .inl ⟨_, _, .dollar, Nat.le_succ _⟩
      by_cases hwhole : d = '&'
      · subst hwhole
        exact .inl ⟨_, _, .whole, Nat.le_succ _⟩
      -- Two digits come before one, and a dollar in front of anything else stands for itself.
      by_cases hdigit : d.isDigit
      · by_cases htwo : TwoDigits groups d cs
        · obtain ⟨e, rest, rfl, he, hgroup⟩ := htwo
          exact .inl ⟨_, _, .two hdigit he hgroup, by simp [Nat.le_succ_of_le]⟩
        by_cases hgroup : IsGroup groups (digitValue d)
        · exact .inl ⟨_, _, .one hdigit htwo hgroup, Nat.le_succ _⟩
        · exact .inr ⟨_, .missing hdigit htwo hgroup⟩
      · refine .inl ⟨_, _, .lone fun e he => ?_, Nat.le_refl _⟩
        obtain rfl := Option.some.inj he
        exact ⟨hdollar, hwhole, hdigit⟩
  · exact .inl ⟨_, _, .char hc, Nat.le_refl _⟩

/-- Induction from front to front. -/
theorem frontInduction (groups : Nat) {P : List Char → Prop} (nil : P [])
    (front : ∀ cs p rest, Front groups cs p rest → P rest → P cs)
    (fault : ∀ cs n, Fault groups cs n → P cs) (cs : List Char) : P cs :=
  match cs with
  | [] => nil
  | c :: cs => by
    rcases front_or_fault groups c cs with ⟨p, rest, hfront, hlength⟩ | ⟨n, hfault⟩
    · exact front _ p rest hfront (frontInduction groups nil front fault rest)
    · exact fault _ n hfault
termination_by cs.length
decreasing_by exact Nat.lt_succ_of_le hlength

/-! ## Faults -/

/-- Reading a replacement comes to a number that no group has. -/
inductive Faulty (groups : Nat) : List Char → Nat → Prop
  | here {cs : List Char} {n : Nat} : Fault groups cs n → Faulty groups cs n
  | later {cs rest : List Char} {p : Part} {n : Nat} : Front groups cs p rest →
      Faulty groups rest n → Faulty groups cs n

theorem read_of_faulty (h : Faulty groups cs n) :
    read groups cs = .error (.missingGroup n groups) := by
  induction h with
  | here h => exact read_of_fault h
  | later hfront _ ih =>
    rw [read_of_front hfront, ih]
    rfl

/-- **Reading fails at the first fault**, and names its number. -/
theorem read_eq_error_iff {e : RuleProblem} :
    read groups cs = .error e ↔ ∃ n, Faulty groups cs n ∧ e = .missingGroup n groups := by
  constructor
  · intro h
    induction cs using frontInduction groups with
    | nil => cases h
    | front cs p rest hfront ih =>
      rw [read_of_front hfront] at h
      cases hrest : read groups rest with
      | ok t =>
        rw [hrest] at h
        cases h
      | error e' =>
        rw [hrest] at h
        obtain rfl := Except.error.inj h
        obtain ⟨n, hn, he⟩ := ih hrest
        exact ⟨n, .later hfront hn, he⟩
    | fault cs n hfault =>
      rw [read_of_fault hfault] at h
      exact ⟨n, .here hfault, (Except.error.inj h).symm⟩
  · rintro ⟨n, hn, rfl⟩
    exact read_of_faulty hn

/-! ## What a replacement says -/

/-- What a part says when the groups have matched texts. -/
def say (texts : Nat → List Char) : Part → List Char
  | .char c => [c]
  | .group n => texts n

/-- What a replacement says, front by front. -/
inductive Means (groups : Nat) (texts : Nat → List Char) : List Char → List Char → Prop
  | nil : Means groups texts [] []
  | front {cs rest text : List Char} {p : Part} : Front groups cs p rest →
      Means groups texts rest text → Means groups texts cs (say texts p ++ text)

variable {texts : Nat → List Char} {text : List Char}

theorem expand_eq (t : Template) (caps : Regex.Captures) :
    t.expand caps = t.flatMap (say caps.textOf) := by
  refine congrArg (fun f => t.flatMap f) (funext fun p => ?_)
  cases p <;> rfl

theorem means_of_read (h : read groups cs = .ok t) (texts : Nat → List Char) :
    Means groups texts cs (t.flatMap (say texts)) := by
  induction cs using frontInduction groups generalizing t with
  | nil =>
    cases h
    exact .nil
  | front cs p rest hfront ih =>
    rw [read_of_front hfront] at h
    obtain ⟨more, hmore, rfl⟩ := map_eq_ok h
    exact .front hfront (ih hmore)
  | fault cs n hfault =>
    rw [read_of_fault hfault] at h
    cases h

/-- **A replacement says one thing**: what the template says that is read from it. -/
theorem means_iff (h : read groups cs = .ok t) :
    Means groups texts cs text ↔ text = t.flatMap (say texts) := by
  constructor
  · intro hmeans
    induction hmeans generalizing t with
    | nil =>
      cases h
      rfl
    | front hfront _ ih =>
      rw [read_of_front hfront] at h
      obtain ⟨more, hmore, rfl⟩ := map_eq_ok h
      rw [ih hmore, List.flatMap_cons]
  · rintro rfl
    exact means_of_read h texts

/-! ## Normal forms -/

/-- Each dollar is one of two, or starts one of `groups` groups or the whole match. -/
inductive Normal (groups : Nat) : List Char → Prop
  | nil : Normal groups []
  | char {c : Char} {rest : List Char} : c ≠ '$' → Normal groups rest → Normal groups (c :: rest)
  | dollar {rest : List Char} : Normal groups rest → Normal groups ('$' :: '$' :: rest)
  | group {n : Nat} {rest : List Char} : n ≤ groups → Normal groups rest →
      Normal groups ('$' :: '{' :: (digitsText n ++ '}' :: rest))

/-- What a normal form says: two dollars are one, and a number in braces is the text of a group. -/
inductive Expands (texts : Nat → List Char) : List Char → List Char → Prop
  | nil : Expands texts [] []
  | char {c : Char} {rest text : List Char} : c ≠ '$' → Expands texts rest text →
      Expands texts (c :: rest) (c :: text)
  | dollar {rest text : List Char} : Expands texts rest text →
      Expands texts ('$' :: '$' :: rest) ('$' :: text)
  | group {n : Nat} {rest text : List Char} : Expands texts rest text →
      Expands texts ('$' :: '{' :: (digitsText n ++ '}' :: rest)) (texts n ++ text)

@[simp] theorem writePart_group_append (n : Nat) (w : List Char) :
    writePart (.group n) ++ w = '$' :: '{' :: (digitsText n ++ '}' :: w) := by
  simp [writePart]

@[simp] theorem write_cons (p : Part) (t : Template) : write (p :: t) = writePart p ++ write t :=
  List.flatMap_cons

theorem normal_write (h : ∀ p ∈ t, p.Within groups) : Normal groups (write t) := by
  induction t with
  | nil => exact .nil
  | cons p t ih =>
    obtain ⟨hp, ht⟩ := List.forall_mem_cons.1 h
    have ih := ih ht
    rw [write_cons]
    cases p with
    | char c =>
      rw [writePart]
      split
      · exact .dollar ih
      · next hc => exact .char hc ih
    | group n =>
      rw [writePart_group_append]
      exact .group hp ih

theorem expands_write (texts : Nat → List Char) (t : Template) :
    Expands texts (write t) (t.flatMap (say texts)) := by
  induction t with
  | nil => exact .nil
  | cons p t ih =>
    rw [write_cons, List.flatMap_cons]
    cases p with
    | char c =>
      rw [writePart]
      split
      · next hc =>
        subst hc
        exact .dollar ih
      · next hc => exact .char hc ih
    | group n =>
      rw [writePart_group_append]
      exact .group ih

/-- A number ends at its closing brace. -/
theorem eq_of_digitsText_append {m : Nat} {w v : List Char}
    (h : digitsText n ++ '}' :: w = digitsText m ++ '}' :: v) : n = m ∧ w = v := by
  have hdigits (k : Nat) : ∀ c ∈ digitsText k, c.isDigit = true := fun c hc =>
    Nat.isDigit_of_mem_toDigits (by decide) (by decide) hc
  have htake := congrArg (List.takeWhile Char.isDigit) h
  have hdrop := congrArg (List.dropWhile Char.isDigit) h
  rw [List.takeWhile_append_of_pos (hdigits n), List.takeWhile_append_of_pos (hdigits m)] at htake
  rw [List.dropWhile_append_of_pos (hdigits n), List.dropWhile_append_of_pos (hdigits m)] at hdrop
  constructor
  · have hvalue := congrArg (Nat.ofDigitChars 10 · 0) (show digitsText n = digitsText m by
      simpa using htake)
    simpa [digitsText, Nat.ofDigitChars_toDigits] using hvalue
  · simpa using hdrop

/-- **A normal form says one thing.** -/
theorem Expands.unique {w text' : List Char} (h : Expands texts w text)
    (h' : Expands texts w text') : text = text' := by
  induction h generalizing text' with
  | nil =>
    cases h'
    rfl
  | char hc _ ih =>
    cases h' with
    | char _ h' => rw [ih h']
    | dollar => exact absurd rfl hc
    | group => exact absurd rfl hc
  | dollar _ ih =>
    cases h' with
    | char hc => exact absurd rfl hc
    | dollar h' => rw [ih h']
  | @group n w text _ ih =>
    -- The other way of expanding starts with a group as well, and by its closing brace with the
    -- same one.
    generalize hw : '$' :: '{' :: (digitsText n ++ '}' :: w) = w' at h'
    cases h' with
    | nil => cases hw
    | char hc => exact absurd (List.cons.inj hw).1.symm hc
    | dollar => simp at hw
    | group h' =>
      obtain ⟨rfl, rfl⟩ := eq_of_digitsText_append (List.cons.inj (List.cons.inj hw).2).2
      rw [ih h']

theorem expands_write_iff : Expands texts (write t) text ↔ text = t.flatMap (say texts) := by
  constructor
  · exact fun h => h.unique (expands_write texts t)
  · rintro rfl
    exact expands_write texts t

/-! ## The result -/

theorem normalForm_eq_error_iff {e : RuleProblem} :
    normalForm groups cs = .error e ↔ read groups cs = .error e := by
  rw [normalForm]
  cases read groups cs with
  | ok t => exact ⟨nofun, nofun⟩
  | error e' => exact ⟨fun h => by cases h; rfl, fun h => by cases h; rfl⟩

/-- **Normal forms keep the meaning of replacements.** There is none exactly for a replacement in
which reading comes to a number that no group has, and the error names the first such number.
Otherwise each dollar of the normal form is one of two or starts one of the groups in braces, and
whatever the groups have matched, replacement and normal form say one and the same text. This is what
a rule puts in for a match. -/
theorem normalForm_exact (groups : Nat) (cs : List Char) :
    (∀ e, normalForm groups cs = .error e ↔
      ∃ n, Faulty groups cs n ∧ e = .missingGroup n groups) ∧
    (∀ w, normalForm groups cs = .ok w → Normal groups w ∧
      ∀ texts, ∃ text, (∀ text', Means groups texts cs text' ↔ text' = text) ∧
        ∀ text', Expands texts w text' ↔ text' = text) ∧
    ∀ t, read groups cs = .ok t →
      ∀ caps : Regex.Captures, Means groups caps.textOf cs (t.expand caps) := by
  refine ⟨fun e => normalForm_eq_error_iff.trans read_eq_error_iff, fun w hw => ?_,
    fun t ht caps => ?_⟩
  · obtain ⟨t, ht, rfl⟩ := map_eq_ok hw
    exact ⟨normal_write (within_of_read ht), fun texts =>
      ⟨t.flatMap (say texts), fun _ => means_iff ht, fun _ => expands_write_iff⟩⟩
  · rw [expand_eq]
    exact means_of_read ht caps.textOf

/-- A second digit counts only where there is such a group, and so does a leading zero. -/
example : normalForm 1 "$12 $01 $$1 $".toList = .ok "${1}2 ${1} $$1 $$".toList := by
  cbv

end Template

end Phrasebook.Speech
