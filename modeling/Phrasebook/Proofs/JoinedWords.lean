import Mathlib.Data.List.Infix
import Phrasebook.Proofs.EnglishRules
import Phrasebook.Proofs.WordOrder

/-!
# Joined words

**Joints** (`Joint`). Between two number words of a phrase stands a blank, a hyphen, `and`, or a
comma. A phrase is a word and a row of joints, each with the word behind it.

**Passes** (`pass`). A rule goes through a phrase from left to right. It changes a blank behind one
of its heads, and then it does not look at the next word as a head again.

**Heads in a phrase** (`Joins`). No end of a number word is another number word, and `and` ends with
none. So a head of a rule is found at the beginning of a word or nowhere.

Main result: `rewritten_pass`. To rewrite the text of a phrase is to change its joints.
-/

namespace Phrasebook.Speech.English

open Regex NumberWord

/-- What stands between two number words. -/
inductive Joint where
  | blank
  | hyphen
  | and
  | comma
  deriving DecidableEq, Repr

/-- The text of a joint. -/
def Joint.text : Joint → List Char
  | blank => [' ']
  | hyphen => ['-']
  | and => " and ".toList
  | comma => [',', ' ']

/-- What comes behind a number word: joints, each with the word behind it. -/
abbrev Tail := List (Joint × NumberWord)

/-- The text of what comes behind a word. -/
def renderTail : Tail → List Char
  | [] => []
  | (j, v) :: t => j.text ++ (spell v ++ renderTail t)

/-- The text of a phrase. -/
def render (w : NumberWord) (t : Tail) : List Char :=
  spell w ++ renderTail t

/-- Something holds of every joint with the words on both sides and what comes next. -/
def Along (P : NumberWord → Joint → NumberWord → Option (Joint × NumberWord) → Prop) :
    NumberWord → Tail → Prop
  | _, [] => True
  | w, (j, v) :: t => P w j v t.head? ∧ Along P v t

/-- The joint that comes next. -/
def nextJoint (t : Tail) : Option Joint :=
  t.head?.map (·.1)

/-- Which blanks a rule changes: between these words, with this joint next. -/
abbrev Hits := NumberWord → NumberWord → Option Joint → Bool

/-- Change blanks into another joint from left to right. The first word is a head only with `free`,
and the word behind a change is none. -/
def pass (hits : Hits) (new : Joint) : (free : Bool) → NumberWord → Tail → Tail
  | _, _, [] => []
  | free, w, (j, v) :: t =>
    if free ∧ j = .blank ∧ hits w v (nextJoint t) then (new, v) :: pass hits new false v t
    else (j, v) :: pass hits new true v t

section

variable {P Q : NumberWord → Joint → NumberWord → Option (Joint × NumberWord) → Prop}
  {w : NumberWord} {t : Tail}

theorem Along.imp (h : Along P w t) (himp : ∀ w j v next, P w j v next → Q w j v next) :
    Along Q w t := by
  induction t generalizing w with
  | nil => trivial
  | cons p t ih => exact ⟨himp _ _ _ _ h.1, ih h.2⟩

theorem Along.and (hP : Along P w t) (hQ : Along Q w t) :
    Along (fun w j v next => P w j v next ∧ Q w j v next) w t := by
  induction t generalizing w with
  | nil => trivial
  | cons p t ih => exact ⟨⟨hP.1, hQ.1⟩, ih hP.2 hQ.2⟩

/-- What holds of every joint holds of the next one. -/
theorem Along.next {R : NumberWord → Joint → NumberWord → Prop}
    (h : Along (fun w j v _ => R w j v) w t) :
    Along (fun _ _ v next => ∀ p ∈ next, R v p.1 p.2) w t := by
  induction t generalizing w with
  | nil => trivial
  | cons p t ih =>
    refine ⟨fun q hq => ?_, ih h.2⟩
    cases t with
    | nil => cases hq
    | cons q' t =>
      obtain rfl := Option.some.inj hq
      exact h.2.1

theorem along_iff_isChain {R : NumberWord → NumberWord → Prop} :
    Along (fun w _ v _ => R w v) w t ↔ (w :: t.map (·.2)).IsChain R := by
  induction t generalizing w with
  | nil => exact ⟨fun _ => .singleton w, fun _ => trivial⟩
  | cons p t ih =>
    rw [List.map_cons, List.isChain_cons_cons, ← ih]
    rfl

variable {hits : Hits} {new : Joint} {free : Bool}

/-- A pass keeps the word that comes next. -/
theorem mem_head?_pass {p : Joint × NumberWord} (h : p ∈ (pass hits new free w t).head?) :
    ∃ j, (j, p.2) ∈ t.head? := by
  cases t with
  | nil => cases h
  | cons q t =>
    obtain ⟨j, v⟩ := q
    refine ⟨j, ?_⟩
    rw [pass] at h
    split at h <;> obtain rfl := Option.some.inj h <;> rfl

theorem map_snd_pass : (pass hits new free w t).map (·.2) = t.map (·.2) := by
  induction t generalizing w free with
  | nil => rfl
  | cons p t ih =>
    obtain ⟨j, v⟩ := p
    rw [pass]
    split <;> simp [ih]

end

/-! ## Words and letters -/

/-- The texts of the number words. -/
def spellings : List (List Char) :=
  NumberWord.all.map spell

theorem isLetter_of_mem_spell : ∀ w ∈ NumberWord.all, Lettered (spell w) := by
  decide +kernel

theorem spell_ne_nil : ∀ w ∈ NumberWord.all, spell w ≠ [] := by
  decide +kernel

/-- No end of a number word is another number word. -/
theorem eq_of_mem_tails : ∀ w ∈ NumberWord.all, ∀ s ∈ (spell w).tails, s ∈ spellings →
    s = spell w := by
  decide +kernel

/-- No end of a joint begins with a number word. -/
theorem takeWhile_of_mem_tails (j : Joint) : ∀ s ∈ j.text.tails, s ≠ [] →
    (s.takeWhile isLetter).length ≠ s.length ∧ s.takeWhile isLetter ∉ spellings := by
  cases j <;> decide +kernel

variable {w v : NumberWord} {j : Joint} {t : Tail} {s cs ds : List Char}

theorem no_letter_renderTail (t : Tail) : (renderTail t).head?.all fun c => !isLetter c := by
  cases t with
  | nil => rfl
  | cons p t =>
    obtain ⟨j, v⟩ := p
    cases j <;> rfl

/-! ## Heads in a phrase -/

section

variable {heads : List (List Char)} {joint close : List Char} {ending : Rewriter}

theorem headedRewriter_of_notMem (h : cs.takeWhile isLetter ∉ heads) :
    headedRewriter heads joint close ending cs = none := by
  rw [headedRewriter]
  exact if_neg h

theorem takeWhile_append_renderTail (hs : Lettered s) (t : Tail) :
    (s ++ renderTail t).takeWhile isLetter = s := by
  have hend := no_letter_renderTail t
  rw [List.takeWhile_append_of_pos hs]
  cases hrest : renderTail t with
  | nil => exact List.append_nil s
  | cons c rest =>
    rw [hrest] at hend
    rw [List.takeWhile_cons_of_neg (by simpa using hend), List.append_nil]

theorem dropWhile_append_renderTail (hs : Lettered s) (t : Tail) :
    (s ++ renderTail t).dropWhile isLetter = renderTail t := by
  have hend := no_letter_renderTail t
  rw [List.dropWhile_append_of_pos hs]
  cases hrest : renderTail t with
  | nil => rfl
  | cons c rest =>
    rw [hrest] at hend
    rw [List.dropWhile_cons_of_neg (by simpa using hend)]

/-- Inside a word nothing is rewritten. -/
theorem headedRewriter_of_suffix (hheads : heads ⊆ spellings) (hw : w ∈ NumberWord.all)
    (hs : s <:+ spell w) (hne : s ≠ spell w) :
    headedRewriter heads joint close ending (s ++ renderTail t) = none := by
  have hletters : Lettered s := fun c hc => isLetter_of_mem_spell w hw c (hs.subset hc)
  refine headedRewriter_of_notMem fun hmem => hne ?_
  rw [takeWhile_append_renderTail hletters] at hmem
  exact eq_of_mem_tails w hw s ((List.mem_tails _ _).2 hs) (hheads hmem)

/-- Inside a joint nothing is rewritten. -/
theorem headedRewriter_of_suffix_text (hheads : heads ⊆ spellings) (hs : s <:+ j.text)
    (hne : s ≠ []) : headedRewriter heads joint close ending (s ++ cs) = none := by
  obtain ⟨hlength, hmem⟩ := takeWhile_of_mem_tails j s ((List.mem_tails _ _).2 hs) hne
  refine headedRewriter_of_notMem fun h => hmem (hheads ?_)
  rwa [List.takeWhile_append, if_neg hlength] at h

/-- The last word is not rewritten. -/
theorem headedRewriter_of_letters (hs : Lettered s) :
    headedRewriter heads joint close ending s = none := by
  have hrest : s.dropWhile isLetter = [] := List.dropWhile_eq_nil_iff.2 hs
  rw [headedRewriter, hrest]
  simp

end

/-! ## Rewriting a phrase -/

/-- **Heads in a phrase**: a rule with these heads changes just the blanks that it hits, as long as
the joints fit. -/
structure Joins (heads : List (List Char)) (close : List Char) (ending : Rewriter)
    (isHead : NumberWord → Bool) (hits : Hits)
    (fits : NumberWord → Joint → NumberWord → Option Joint → Prop) : Prop where
  heads_subset : heads ⊆ spellings
  mem_heads : ∀ w ∈ NumberWord.all, spell w ∈ heads ↔ isHead w
  close_suffix : close <:+ Joint.blank.text
  /-- No `and` stands behind a head. -/
  not_and : ∀ {w j v next}, fits w j v next → isHead w → j ≠ .and
  isHead_of_hits : ∀ {w v next}, hits w v next → isHead w
  miss : ∀ {w v t}, v ∈ NumberWord.all → fits w .blank v (nextJoint t) → isHead w →
    hits w v (nextJoint t) = false → ending (spell v ++ renderTail t) = none
  hit : ∀ {w v t}, v ∈ NumberWord.all → hits w v (nextJoint t) →
    ∃ rest, renderTail t = close ++ rest ∧
      ending (spell v ++ renderTail t) = some (spell v, rest)

variable {heads : List (List Char)} {close : List Char} {ending : Rewriter}
  {isHead : NumberWord → Bool} {hits : Hits}
  {fits : NumberWord → Joint → NumberWord → Option Joint → Prop} {new : Joint}

/-- Where a rule hits nothing it writes nothing. -/
theorem Joins.eq_none (h : Joins heads close ending isHead hits fits) (hw : w ∈ NumberWord.all)
    (hv : v ∈ NumberWord.all) (hfits : fits w j v (nextJoint t))
    (hmiss : ¬(j = .blank ∧ hits w v (nextJoint t))) :
    headedRewriter heads new.text close ending (render w ((j, v) :: t)) = none := by
  have hletters := isLetter_of_mem_spell w hw
  by_cases hhead : spell w ∈ heads
  · cases j with
    | blank =>
      have hnone : hits w v (nextJoint t) = false := by simpa using hmiss
      show headedRewriter heads new.text close ending
        (spell w ++ ' ' :: (spell v ++ renderTail t)) = none
      rw [headedRewriter_of_head hletters hhead, h.miss hv hfits ((h.mem_heads w hw).1 hhead) hnone]
      rfl
    | and => exact absurd rfl (h.not_and hfits ((h.mem_heads w hw).1 hhead))
    | hyphen =>
      rw [render, headedRewriter, dropWhile_append_renderTail hletters]
      simp [renderTail, Joint.text]
    | comma =>
      rw [render, headedRewriter, dropWhile_append_renderTail hletters]
      simp [renderTail, Joint.text]
  · refine headedRewriter_of_notMem ?_
    rwa [render, takeWhile_append_renderTail hletters]

/-- Where a rule hits a blank it writes the new joint and goes on behind the next word. -/
theorem Joins.rewritten (h : Joins heads close ending isHead hits fits) (hw : w ∈ NumberWord.all)
    (hv : v ∈ NumberWord.all) (hhit : hits w v (nextJoint t))
    (hrest : Rewritten (headedRewriter heads new.text close ending) (renderTail t) ds) :
    Rewritten (headedRewriter heads new.text close ending) (render w ((.blank, v) :: t))
      (spell w ++ (new.text ++ (spell v ++ ds))) := by
  obtain ⟨rest, hclose, hending⟩ := h.hit hv hhit
  obtain ⟨ds, rfl, hbehind⟩ : ∃ ds', ds = close ++ ds' ∧ Rewritten _ rest ds' := by
    refine Rewritten.of_append (fun s hs => ?_) (hclose ▸ hrest)
    exact headedRewriter_of_suffix_text h.heads_subset (hs.trans h.close_suffix)
  have hwrite : headedRewriter heads new.text close ending (render w ((.blank, v) :: t)) =
      some (spell w ++ new.text ++ spell v ++ close, rest) := by
    show headedRewriter heads new.text close ending
      (spell w ++ ' ' :: (spell v ++ renderTail t)) = _
    rw [headedRewriter_of_head (isLetter_of_mem_spell w hw)
      ((h.mem_heads w hw).2 (h.isHead_of_hits hhit)), hending]
    rfl
  have := Rewritten.write hwrite hbehind
  simpa only [List.append_assoc] using this

/-- **To rewrite a phrase** is to change its joints. -/
theorem rewritten_pass (h : Joins heads close ending isHead hits fits) (hw : w ∈ NumberWord.all)
    (ht : ∀ p ∈ t, p.2 ∈ NumberWord.all)
    (hfits : Along (fun w j v next => fits w j v (next.map (·.1))) w t) :
    Rewritten (headedRewriter heads new.text close ending) (render w t)
        (render w (pass hits new true w t)) ∧
      Rewritten (headedRewriter heads new.text close ending) (renderTail t)
        (renderTail (pass hits new false w t)) := by
  induction t generalizing w with
  | nil =>
    have hend : Rewritten (headedRewriter heads new.text close ending) [] [] :=
      .nil (headedRewriter_of_letters fun c hc => absurd hc List.not_mem_nil)
    refine ⟨Rewritten.append (fun s hs _ => ?_) hend, hend⟩
    rw [renderTail, List.append_nil]
    exact headedRewriter_of_letters fun c hc => isLetter_of_mem_spell w hw c (hs.subset hc)
  | cons p t ih =>
    obtain ⟨j, v⟩ := p
    obtain ⟨hfits, hnext⟩ := hfits
    have hv : v ∈ NumberWord.all := ht _ List.mem_cons_self
    -- Behind a joint that is kept the next word may be a head; behind one that is changed it has
    -- been taken.
    obtain ⟨hfree, hbehind⟩ := ih hv (fun p hp => ht p (List.mem_cons_of_mem _ hp)) hnext
    have hkept : Rewritten (headedRewriter heads new.text close ending) (renderTail ((j, v) :: t))
        (renderTail ((j, v) :: pass hits new true v t)) :=
      Rewritten.append (fun s hs hne => headedRewriter_of_suffix_text h.heads_subset hs hne) hfree
    refine ⟨?_, by simpa [pass] using hkept⟩
    by_cases hhit : j = .blank ∧ hits w v (nextJoint t)
    · obtain ⟨rfl, hhit⟩ := hhit
      rw [pass, if_pos ⟨rfl, rfl, hhit⟩]
      exact h.rewritten hw hv hhit hbehind
    · rw [pass, if_neg fun hpass => hhit hpass.2]
      refine Rewritten.append (fun s hs _ => ?_) hkept
      -- Only the whole word can be a head, not an end of it.
      by_cases hne : s = spell w
      · rw [hne]
        exact h.eq_none hw hv hfits hhit
      · exact headedRewriter_of_suffix h.heads_subset hw hs hne

/-! ## The four rules -/

theorem letterRow_spell (hv : v ∈ NumberWord.all) (t : Tail) :
    letterRow (spell v ++ renderTail t) = some (spell v, renderTail t) := by
  have hletters := isLetter_of_mem_spell v hv
  rw [letterRow, takeWhile_append_renderTail hletters, dropWhile_append_renderTail hletters]
  cases hspell : spell v with
  | nil => exact absurd hspell (spell_ne_nil v hv)
  | cons c w => rfl

/-- What a text of letters can begin with is at the front of the word that comes first. -/
theorem prefix_spell {u : List Char} (hu : Lettered u)
    (h : u <+: spell v ++ renderTail t) : u <+: spell v := by
  by_cases hlength : u.length ≤ (spell v).length
  · exact List.prefix_of_prefix_length_le h (List.prefix_append _ _) hlength
  · obtain ⟨x, rfl⟩ : spell v <+: u :=
      List.prefix_of_prefix_length_le (List.prefix_append _ _) h (by omega)
    -- It would go on behind the word, and there no letter stands.
    cases x with
    | nil => exact absurd (Nat.le_of_eq (congrArg List.length (List.append_nil _))) hlength
    | cons c x =>
      have hc : isLetter c := hu c (List.mem_append_right _ List.mem_cons_self)
      obtain ⟨rest, hrest⟩ := (List.prefix_append_right_inj _).1 h
      have hend := no_letter_renderTail t
      rw [← hrest] at hend
      have : isLetter c = false := by simpa using hend
      exact absurd (this.symm.trans hc) Bool.false_ne_true

theorem firstWord_eq : ∀ v ∈ NumberWord.all, v.isUnit ∨ v.isScale → ∀ u ∈ unitWords,
    u <+: spell v → v.isUnit ∧ u = spell v := by
  decide +kernel

/-- Behind tens a unit is found, and a scale is none. -/
theorem firstWord_spell (hv : v ∈ NumberWord.all) (hkind : v.isUnit ∨ v.isScale) (t : Tail) :
    firstWord unitWords (spell v ++ renderTail t) =
      if v.isUnit then some (spell v, renderTail t) else none := by
  have hletters : ∀ u ∈ unitWords, Lettered u := by decide +kernel
  have hfound {u : List Char} (hu : u ∈ unitWords) (h : u.isPrefixOf (spell v ++ renderTail t)) :
      v.isUnit ∧ u = spell v :=
    firstWord_eq v hv hkind u hu (prefix_spell (hletters u hu) (List.isPrefixOf_iff_prefix.1 h))
  split_ifs with hunit
  · have hmem : ∀ v ∈ NumberWord.all, v.isUnit → spell v ∈ unitWords := by decide +kernel
    rw [firstWord, findSome?_eq_of_unique (hmem v hv hunit) fun u hu hne =>
      if_neg fun h => hne (hfound hu h).2]
    rw [if_pos (List.isPrefixOf_iff_prefix.2 (List.prefix_append _ _)), List.drop_left]
  · refine List.findSome?_eq_none_iff.2 fun u hu => if_neg fun h => hunit (hfound hu h).1

theorem spacedRow_spell (hv : v ∈ NumberWord.all) (u : NumberWord) (t : Tail) :
    Program.spacedRow (spell v ++ renderTail ((.blank, u) :: t)) = some (spell v, render u t) := by
  have hletters := isLetter_of_mem_spell v hv
  rw [Program.spacedRow, takeWhile_append_renderTail hletters,
    dropWhile_append_renderTail hletters]
  cases hspell : spell v with
  | nil => exact absurd hspell (spell_ne_nil v hv)
  | cons c w => rfl

theorem spacedRow_eq_none (hv : v ∈ NumberWord.all) (h : (renderTail t).head? ≠ some ' ') :
    Program.spacedRow (spell v ++ renderTail t) = none := by
  have hletters := isLetter_of_mem_spell v hv
  rw [Program.spacedRow, takeWhile_append_renderTail hletters,
    dropWhile_append_renderTail hletters]
  split
  · next hrest =>
    rw [hrest] at h
    exact absurd rfl h
  · rfl

/-- The first rule changes a blank between tens and a unit. -/
def hyphenHits : Hits := fun w v _ => w.isTen && v.isUnit

/-- The second rule changes a blank behind a hundred. -/
def hundredHits : Hits := fun w v _ => w = .hundred && v ≠ .hundred

/-- The third rule changes a blank behind a scale if another blank comes next. -/
def commaHits : Hits := fun w _ next => w.isScale && next = some .blank

/-- The last rule changes a blank behind a scale. -/
def scaleHits : Hits := fun w _ _ => w.isScale

theorem joins_hyphen : Joins tensWords [] (firstWord unitWords) isTen hyphenHits
    fun w j v _ => Follows w v ∧ j ≠ .and where
  heads_subset := by decide +kernel
  mem_heads := by decide +kernel
  close_suffix := List.nil_suffix
  not_and hfits _ := hfits.2
  isHead_of_hits hhit := (Bool.and_eq_true_iff.1 hhit).1
  miss := by
    intro w v t hv hfits hhead hmiss
    have hunit : ¬ v.isUnit := by simpa [hyphenHits, hhead] using hmiss
    rw [firstWord_spell hv (hfits.1.1 hhead), if_neg hunit]
  hit := by
    intro w v t hv hhit
    have hunit := (Bool.and_eq_true_iff.1 hhit).2
    exact ⟨_, rfl, by rw [firstWord_spell hv (.inl hunit), if_pos hunit]⟩

theorem joins_hundred : Joins [spell .hundred] [] letterRow (· = .hundred) hundredHits
    fun w j v _ => Follows w v ∧ (w = .hundred → j ≠ .and) where
  heads_subset := by decide +kernel
  mem_heads := by decide +kernel
  close_suffix := List.nil_suffix
  not_and hfits hhead := hfits.2 (of_decide_eq_true hhead)
  isHead_of_hits hhit := (Bool.and_eq_true_iff.1 hhit).1
  miss := by
    intro w v t hv hfits hhead hmiss
    obtain rfl := of_decide_eq_true hhead
    have hhundred : v = .hundred := by simpa [hundredHits] using hmiss
    exact absurd (hfits.1.2 hhundred) Bool.false_ne_true
  hit hv _ := ⟨_, rfl, letterRow_spell hv _⟩

theorem joins_scale : Joins scaleWords [] letterRow isScale scaleHits
    fun w j _ _ => w.isScale → j ≠ .and where
  heads_subset := by decide +kernel
  mem_heads := by decide +kernel
  close_suffix := List.nil_suffix
  not_and hfits hhead := hfits hhead
  isHead_of_hits hhit := hhit
  miss _ _ hhead hmiss := absurd (hmiss.symm.trans hhead) Bool.false_ne_true
  hit hv _ := ⟨_, rfl, letterRow_spell hv _⟩

theorem joins_comma : Joins scaleWords [' '] Program.spacedRow isScale commaHits
    fun w j _ next => w.isScale → j ≠ .and ∧ next ≠ some .and where
  heads_subset := by decide +kernel
  mem_heads := by decide +kernel
  close_suffix := List.suffix_rfl
  not_and hfits hhead := (hfits hhead).1
  isHead_of_hits hhit := (Bool.and_eq_true_iff.1 hhit).1
  miss := by
    intro w v t hv hfits hhead hmiss
    refine spacedRow_eq_none hv ?_
    -- With another blank next the rule would hit; any other joint begins with no blank, or it is
    -- `and`.
    cases t with
    | nil => exact Option.some_ne_none _ ∘ Eq.symm
    | cons p t =>
      obtain ⟨j, u⟩ := p
      cases j with
      | blank => simp [commaHits, hhead, nextJoint] at hmiss
      | and => exact absurd rfl (hfits hhead).2
      | hyphen => exact fun h => absurd (Option.some.inj h) (by decide)
      | comma => exact fun h => absurd (Option.some.inj h) (by decide)
  hit := by
    intro w v t hv hhit
    cases t with
    | nil => simp [commaHits, nextJoint] at hhit
    | cons p t =>
      obtain ⟨j, u⟩ := p
      obtain rfl : j = .blank := by simpa [nextJoint] using (Bool.and_eq_true_iff.1 hhit).2
      exact ⟨render u t, rfl, spacedRow_spell hv u t⟩

/-! ## Tidy phrases -/

theorem length_spell_le : ∀ w ∈ NumberWord.all, (spell w).length ≤ 9 := by
  decide +kernel

theorem length_text_le (j : Joint) : j.text.length ≤ 5 := by
  cases j <;> decide

theorem length_renderTail_le (ht : ∀ p ∈ t, p.2 ∈ NumberWord.all) :
    (renderTail t).length ≤ 14 * t.length := by
  induction t with
  | nil => exact Nat.le_refl 0
  | cons p t ih =>
    obtain ⟨j, v⟩ := p
    have := ih fun p hp => ht p (List.mem_cons_of_mem _ hp)
    have := length_spell_le v (ht (j, v) List.mem_cons_self)
    have := length_text_le j
    rw [renderTail, List.length_append, List.length_append, List.length_cons]
    omega

/-- No two blanks stand in a row. -/
def SingleBlanks (cs : List Char) : Prop :=
  cs.IsChain fun c d => c = ' ' → d ≠ ' '

theorem SingleBlanks.letters_append (hs : Lettered s) (h : SingleBlanks cs) :
    SingleBlanks (s ++ cs) := by
  induction s with
  | nil => exact h
  | cons c s ih =>
    refine List.isChain_cons.2 ⟨fun d _ hc => ?_, ih hs.tail⟩
    have hletter := hs.head
    rw [hc] at hletter
    exact absurd hletter (by decide)

theorem SingleBlanks.text_append {c : Char} (hc : c ≠ ' ') (h : SingleBlanks (c :: cs)) :
    SingleBlanks (j.text ++ c :: cs) := by
  cases j <;> simpa [SingleBlanks, Joint.text, hc] using h

theorem singleBlanks_renderTail (ht : ∀ p ∈ t, p.2 ∈ NumberWord.all) :
    SingleBlanks (renderTail t) := by
  induction t with
  | nil => exact .nil
  | cons p t ih =>
    obtain ⟨j, v⟩ := p
    have hv : v ∈ NumberWord.all := ht (j, v) List.mem_cons_self
    have hrest : SingleBlanks (spell v ++ renderTail t) :=
      .letters_append (isLetter_of_mem_spell v hv) (ih fun p hp => ht p (List.mem_cons_of_mem _ hp))
    obtain ⟨c, rest, hspell⟩ := List.exists_cons_of_ne_nil (spell_ne_nil v hv)
    have hc : c ≠ ' ' := by
      rintro rfl
      exact absurd (isLetter_of_mem_spell v hv ' ' (hspell ▸ List.mem_cons_self)) (by decide)
    rw [renderTail, hspell, List.cons_append]
    rw [hspell, List.cons_append] at hrest
    exact hrest.text_append hc

/-- **A phrase of moderate length is tidy.** -/
theorem tidy_render (hw : w ∈ NumberWord.all) (ht : ∀ p ∈ t, p.2 ∈ NumberWord.all)
    (hlength : t.length ≤ 33) : Tidy (render w t) where
  length_le := by
    have := length_spell_le w hw
    have := length_renderTail_le ht
    rw [render, List.length_append]
    omega
  single_blanks :=
    SingleBlanks.letters_append (isLetter_of_mem_spell w hw) (singleBlanks_renderTail ht)

end Phrasebook.Speech.English
