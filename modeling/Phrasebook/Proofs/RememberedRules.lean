import Phrasebook.Plural.Choice

/-!
# Remembered rules change no answer

**Faithful memos** (`RuleMemo.Faithful`). A memo has one entry at most for each locale and kind, and
the entry is what is built for them, nothing included. So rules that are remembered are the rules
that would be built now.

**One question** (`Classifier.answer_cases`). Its topic is remembered, and the memo stays; or it is
not, and the memo has one more entry at its end. Both answers are the plain one if the memo is
faithful (`Faithful.answer_fst`), and the memo stays faithful (`Faithful.answer_snd`).

**A run of questions** follows by induction, from the empty memo on.

Main result: `answers_exact`.
-/

namespace Phrasebook.Plural

variable {R : Type} {c : Classifier R} {memo : RuleMemo R}

/-! ## Faithful memos -/

namespace RuleMemo

/-- What the entries of a memo are for, in the order in which it came up. -/
def topics (memo : RuleMemo R) : List (String × PluralKind) :=
  memo.map (·.1)

/-- A memo has rules for each locale and kind once, and they are those that are built for them. -/
structure Faithful (c : Classifier R) (memo : RuleMemo R) : Prop where
  once : memo.topics.Nodup
  built : ∀ e ∈ memo, e.2 = c.build e.1.1 e.1.2

theorem faithful_nil (c : Classifier R) : Faithful c [] :=
  ⟨.nil, nofun⟩

@[simp] theorem topics_append_single (memo : RuleMemo R) (topic : String × PluralKind)
    (rules : Option R) : RuleMemo.topics (memo ++ [(topic, rules)]) = memo.topics ++ [topic] := by
  simp [topics]

end RuleMemo

open RuleMemo (Faithful)

/-! ## One question -/

/-- **What a question does**: it finds an entry for its topic and leaves the memo alone, or it finds
none and adds one. -/
theorem Classifier.answer_cases (c : Classifier R) (memo : RuleMemo R) (q : Question) :
    (∃ rules, (q.topic, rules) ∈ memo ∧
      c.answer memo q = (c.categorize rules q.quantity, memo)) ∨
    (q.topic ∉ memo.topics ∧
      c.answer memo q = (c.plain q, memo ++ [(q.topic, c.build q.locale q.kind)])) := by
  cases hfound : memo.lookup q.topic with
  | some rules =>
    left
    obtain ⟨before, after, rfl, -⟩ := List.lookup_eq_some_iff.1 hfound
    refine ⟨rules, by simp, ?_⟩
    simp only [answer, hfound]
  | none =>
    right
    refine ⟨?_, by simp only [answer, hfound, plain]⟩
    intro hmem
    obtain ⟨e, he, htopic⟩ := List.mem_map.1 hmem
    have hne := List.lookup_eq_none_iff.1 hfound e he
    simp [htopic] at hne

namespace RuleMemo.Faithful

/-- **A question is answered plainly.** -/
theorem answer_fst (h : Faithful c memo) (q : Question) : (c.answer memo q).1 = c.plain q := by
  rcases c.answer_cases memo q with ⟨rules, hmem, hanswer⟩ | ⟨-, hanswer⟩
  · have hbuilt : rules = c.build q.locale q.kind := h.built _ hmem
    rw [hanswer, hbuilt]
    rfl
  · rw [hanswer]

/-- **A memo stays faithful.** -/
theorem answer_snd (h : Faithful c memo) (q : Question) : Faithful c (c.answer memo q).2 := by
  rcases c.answer_cases memo q with ⟨rules, -, hanswer⟩ | ⟨hnew, hanswer⟩
  · rwa [hanswer]
  · rw [hanswer]
    constructor
    · rw [topics_append_single, List.nodup_append]
      refine ⟨h.once, by simp, ?_⟩
      intro topic htopic topic' htopic' heq
      rw [List.mem_singleton] at htopic'
      subst heq htopic'
      exact hnew htopic
    · intro e he
      rcases List.mem_append.1 he with he | he
      · exact h.built e he
      · rw [List.mem_singleton.1 he]
        rfl

end RuleMemo.Faithful

/-- After a question its topic is remembered, with all that was remembered before. -/
theorem Classifier.mem_topics_answer (c : Classifier R) (memo : RuleMemo R) (q : Question)
    (topic : String × PluralKind) :
    topic ∈ RuleMemo.topics (c.answer memo q).2 ↔ topic ∈ memo.topics ∨ topic = q.topic := by
  rcases c.answer_cases memo q with ⟨rules, hmem, hanswer⟩ | ⟨-, hanswer⟩
  · have hold : q.topic ∈ memo.topics := List.mem_map_of_mem hmem
    rw [hanswer]
    constructor
    · exact .inl
    · rintro (h | rfl)
      · exact h
      · exact hold
  · rw [hanswer, RuleMemo.topics_append_single]
    simp

/-! ## A run of questions -/

namespace Classifier

theorem answers_cons (c : Classifier R) (memo : RuleMemo R) (q : Question) (qs : List Question) :
    c.answers memo (q :: qs) =
      ((c.answer memo q).1 :: (c.answers (c.answer memo q).2 qs).1,
        (c.answers (c.answer memo q).2 qs).2) :=
  rfl

/-- **The memo cannot be seen in the answers.** -/
theorem answers_fst (h : Faithful c memo) (qs : List Question) :
    (c.answers memo qs).1 = qs.map c.plain := by
  induction qs generalizing memo with
  | nil => rfl
  | cons q qs ih => rw [answers_cons, List.map_cons, h.answer_fst q, ih (h.answer_snd q)]

/-- **A run keeps a memo faithful.** -/
theorem faithful_answers (h : Faithful c memo) (qs : List Question) :
    Faithful c (c.answers memo qs).2 := by
  induction qs generalizing memo with
  | nil => exact h
  | cons q qs ih => exact ih (h.answer_snd q)

/-- A run remembers what it was asked about, and nothing else. -/
theorem mem_topics_answers (c : Classifier R) (memo : RuleMemo R) (qs : List Question)
    (topic : String × PluralKind) :
    topic ∈ RuleMemo.topics (c.answers memo qs).2 ↔
      topic ∈ memo.topics ∨ ∃ q ∈ qs, topic = q.topic := by
  induction qs generalizing memo with
  | nil => simp [answers]
  | cons q qs ih =>
    rw [answers_cons, ih, c.mem_topics_answer]
    simp [or_assoc]

/-- **The memo is invisible.** Whatever a thread asks, in whatever order, each answer is the one that
rules built for this question give. After any number of questions the memo has one entry for each
locale and kind that was asked about and no other, and the entry is what is built for them, nothing
included. -/
theorem answers_exact (c : Classifier R) (qs : List Question) :
    (c.answers [] qs).1 = qs.map c.plain ∧
    ∀ n, Faithful c (c.answers [] (qs.take n)).2 ∧
      ∀ topic, topic ∈ RuleMemo.topics (c.answers [] (qs.take n)).2 ↔
        ∃ q ∈ qs.take n, topic = q.topic := by
  have hempty := RuleMemo.faithful_nil c
  refine ⟨answers_fst hempty qs, fun n => ⟨faithful_answers hempty _, fun topic => ?_⟩⟩
  rw [mem_topics_answers]
  simp [RuleMemo.topics]

/-- The kinds of one locale are remembered apart. -/
example : (commonSource.classifier.answers [] [⟨"en", .integer 2, .cardinal⟩,
    ⟨"en", .integer 2, .ordinal⟩, ⟨"en", .integer 1, .cardinal⟩]).1 = [.other, .two, .one] := by cbv

end Classifier

/-- **A source answers as without a memo**, so where only answers count it may be left out. -/
theorem RuleMemo.categories_fst {source : RuleSource} {memo : RuleMemo (Operands → Category)}
    (h : Faithful source.classifier memo) (locale : String) (kind : PluralKind)
    (qs : List Quantity) :
    (memo.categories locale kind qs source).1 =
      qs.map fun q => plainCategory source locale q kind := by
  rw [categories, Classifier.answers_fst h, List.map_map]
  rfl

end Phrasebook.Plural
