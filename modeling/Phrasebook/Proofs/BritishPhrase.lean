import Phrasebook.Proofs.EnglishJoints

/-!
# British phrases

**Words between blanks** (`tokens`). A phrase that is taken apart at its blanks has its number words
again, with hyphens and commas at some of them, and `and` between others.

**Reading off a phrase** (`followers`, `predecessors`). What stands behind the word for hundred, and
what stands before the words for thousand and million.

Main result: `speak_british`.
-/

namespace Phrasebook.Speech

open Text (IsWord)

/-! ## Reading off a row of words -/

/-- The words behind a word, one for each place where it stands. -/
def followers (x : String) : List String → List (Option String)
  | [] => []
  | w :: ws => if w = x then ws.head? :: followers x ws else followers x ws

/-- The words before words of a kind. -/
def predecessors (p : String → Bool) : List String → List String
  | w :: v :: ws => if p v then w :: predecessors p (v :: ws) else predecessors p (v :: ws)
  | _ => []

namespace English

open Regex NumberWord

/-- The English word for a number word. -/
def word (w : NumberWord) : String :=
  w.inWords vocabulary

/-- Whether a word is for thousand or million, maybe with a comma. -/
def isScaleWord (s : String) : Bool :=
  [word .thousand, word .million, word .thousand ++ ",", word .million ++ ","].contains s

/-- Whether a word divides a phrase: it is `and`, or it ends with a comma. -/
def isDivider (s : String) : Bool :=
  s = "and" || s.toList.getLast? = some ','

/-! ## Words between blanks -/

/-- The words between the blanks of a phrase; the first one is, or ends with, `cur`. -/
def tokens (cur : String) : Tail → List String
  | [] => [cur]
  | (.blank, v) :: t => cur :: tokens (word v) t
  | (.hyphen, v) :: t => tokens (cur ++ "-" ++ word v) t
  | (.and, v) :: t => cur :: "and" :: tokens (word v) t
  | (.comma, v) :: t => (cur ++ ",") :: tokens (word v) t

variable {w v : NumberWord} {t : Tail} {cur : String}

theorem tokens_ne_nil (cur : String) (t : Tail) : tokens cur t ≠ [] := by
  induction t generalizing cur with
  | nil => exact List.cons_ne_nil _ _
  | cons p t ih =>
    obtain ⟨j, v⟩ := p
    cases j with
    | hyphen => exact ih _
    | blank => exact List.cons_ne_nil _ _
    | and => exact List.cons_ne_nil _ _
    | comma => exact List.cons_ne_nil _ _

/-- **The text of a phrase** are these words one blank apart. -/
theorem toList_phrase_tokens (cur : String) (t : Tail) :
    (phrase (tokens cur t)).toList = cur.toList ++ renderTail t := by
  induction t generalizing cur with
  | nil => rw [tokens, toList_phrase_single, renderTail, List.append_nil]
  | cons p t ih =>
    obtain ⟨j, v⟩ := p
    cases j with
    | blank =>
      rw [tokens, toList_phrase_cons (tokens_ne_nil _ _), ih]
      rfl
    | hyphen =>
      -- The hyphen does not end the word, so the rest is told for a longer first word.
      rw [tokens, ih, String.toList_append, String.toList_append, List.append_assoc,
        List.append_assoc]
      rfl
    | and =>
      rw [tokens, toList_phrase_cons (List.cons_ne_nil _ _), toList_phrase_cons (tokens_ne_nil _ _),
        ih]
      rfl
    | comma =>
      rw [tokens, toList_phrase_cons (tokens_ne_nil _ _), ih, String.toList_append,
        List.append_assoc]
      rfl

theorem isWord_append {a b : String} (ha : IsWord a) (hb : IsWord b) : IsWord (a ++ b) where
  ne_empty h := by
    have := congrArg String.toList h
    rw [String.toList_append] at this
    exact ha.toList_ne_nil (List.append_eq_nil_iff.1 this).1
  no_blank c hc := by
    rw [String.toList_append] at hc
    exact (List.mem_append.1 hc).elim (ha.no_blank c) (hb.no_blank c)

theorem isWord_word (hw : w ∈ NumberWord.all) : IsWord (word w) :=
  clear_vocabulary.isWord _ (Vocabulary.inWords_mem hw)

theorem isWord_of_mem_tokens (hcur : IsWord cur) (ht : ∀ p ∈ t, p.2 ∈ NumberWord.all) :
    ∀ s ∈ tokens cur t, IsWord s := by
  induction t generalizing cur with
  | nil => exact fun s hs => List.mem_singleton.1 hs ▸ hcur
  | cons p t ih =>
    obtain ⟨j, v⟩ := p
    have hv := isWord_word (ht (j, v) List.mem_cons_self)
    have ht' : ∀ p ∈ t, p.2 ∈ NumberWord.all := fun p hp => ht p (List.mem_cons_of_mem _ hp)
    cases j with
    | blank => exact List.forall_mem_cons.2 ⟨hcur, ih hv ht'⟩
    | hyphen => exact ih (isWord_append (isWord_append hcur (by decide)) hv) ht'
    | and => exact List.forall_mem_cons.2 ⟨hcur, List.forall_mem_cons.2 ⟨by decide, ih hv ht'⟩⟩
    | comma => exact List.forall_mem_cons.2 ⟨isWord_append hcur (by decide), ih hv ht'⟩

/-! ## What a phrase says -/

/-- A word between blanks that ends with a number word. -/
structure Token (cur : String) (w : NumberWord) : Prop where
  eq_word : w.isUnit = false → cur = word w
  hundred : cur = word .hundred ↔ w = .hundred
  scale : isScaleWord cur = w.isScale
  divider : isDivider cur = false

theorem token_word (hw : w ∈ NumberWord.all) : Token (word w) w := by
  have h : ∀ w ∈ NumberWord.all, (word w = word .hundred ↔ w = .hundred) ∧
      isScaleWord (word w) = w.isScale ∧ isDivider (word w) = false := by
    decide +kernel
  obtain ⟨hhundred, hscale, hdivider⟩ := h w hw
  exact ⟨fun _ => rfl, hhundred, hscale, hdivider⟩

theorem token_hyphen (hw : w ∈ NumberWord.all) (hten : w.isTen) (hv : v ∈ NumberWord.all)
    (hunit : v.isUnit) : Token (word w ++ "-" ++ word v) v := by
  have h : ∀ w ∈ NumberWord.all, w.isTen → ∀ v ∈ NumberWord.all, v.isUnit →
      word w ++ "-" ++ word v ≠ word .hundred ∧ isScaleWord (word w ++ "-" ++ word v) = false ∧
        isDivider (word w ++ "-" ++ word v) = false := by
    decide +kernel
  obtain ⟨hhundred, hscale, hdivider⟩ := h w hw hten v hv hunit
  refine ⟨fun h => absurd (h.symm.trans hunit) Bool.false_ne_true, ?_, ?_, hdivider⟩
  · refine iff_of_false hhundred ?_
    rintro rfl
    cases hunit
  · rw [hscale, isScale_eq_false_of_isUnit hunit]

/-- A scale with a comma. -/
theorem comma_word : ∀ w ∈ NumberWord.all, w.isScale → word w ++ "," ≠ word .hundred ∧
    isScaleWord (word w ++ ",") ∧ isDivider (word w ++ ",") := by
  decide +kernel

theorem and_ne_hundred : "and" ≠ word .hundred := by
  decide

/-- **What is said behind a hundred**: `and`, unless nothing follows. -/
theorem followers_tokens (hcur : Token cur w) (hw : w ∈ NumberWord.all)
    (ht : ∀ p ∈ t, p.2 ∈ NumberWord.all) (h : Along (fun w j v _ => Joined w j v) w t) :
    (followers (word .hundred) (tokens cur t)).map (fun next => decide (next = some "and")) =
      continued false (w :: t.map (·.2)) := by
  induction t generalizing w cur with
  | nil =>
    rw [tokens, followers, followers, List.map_nil, continued, continued]
    by_cases hw : w = .hundred
    · rw [if_pos (hcur.hundred.2 hw), if_pos hw]
      rfl
    · rw [if_neg fun h => hw (hcur.hundred.1 h), if_neg hw]
      rfl
  | cons p t ih =>
    obtain ⟨j, v⟩ := p
    obtain ⟨hj, h⟩ := h
    have hv : v ∈ NumberWord.all := ht (j, v) List.mem_cons_self
    have ht' : ∀ p ∈ t, p.2 ∈ NumberWord.all := fun p hp => ht p (List.mem_cons_of_mem _ hp)
    have hrest := ih (token_word hv) hv ht' h
    rw [List.map_cons, continued]
    by_cases hhundred : w = .hundred
    · obtain rfl := hj.hundred hhundred
      rw [tokens, followers, if_pos (hcur.hundred.2 hhundred), if_pos hhundred, followers,
        if_neg and_ne_hundred, List.map_cons, hrest]
      rfl
    · rw [if_neg hhundred]
      have hne : cur ≠ word .hundred := fun h => hhundred (hcur.hundred.1 h)
      cases j with
      | blank => rw [tokens, followers, if_neg hne, hrest]
      | hyphen =>
        obtain ⟨hten, hunit⟩ := hj.hyphen rfl
        -- The ten and the unit make one word between blanks, and the unit stands for it.
        rw [tokens, hcur.eq_word (isUnit_eq_false_of_isTen hten)]
        exact ih (token_hyphen hw hten hv hunit) hv ht' h
      | and => rw [tokens, followers, if_neg hne, followers, if_neg and_ne_hundred, hrest]
      | comma =>
        have hscale := hj.comma rfl
        rw [tokens, hcur.eq_word (isUnit_eq_false_of_isScale hscale), followers,
          if_neg (comma_word w hw hscale).1, hrest]

/-- The first word between blanks is a scale if the first number word is one. -/
theorem exists_tokens_eq_cons (hcur : Token cur w) (hw : w ∈ NumberWord.all)
    (ht : ∀ p ∈ t, p.2 ∈ NumberWord.all) (h : Along (fun w j v _ => Joined w j v) w t) :
    ∃ first rest, tokens cur t = first :: rest ∧ isScaleWord first = w.isScale := by
  induction t generalizing w cur with
  | nil => exact ⟨cur, [], rfl, hcur.scale⟩
  | cons p t ih =>
    obtain ⟨j, v⟩ := p
    obtain ⟨hj, h⟩ := h
    cases j with
    | blank => exact ⟨cur, _, rfl, hcur.scale⟩
    | and => exact ⟨cur, _, rfl, hcur.scale⟩
    | comma =>
      have hscale := hj.comma rfl
      refine ⟨cur ++ ",", _, rfl, ?_⟩
      rw [hcur.eq_word (isUnit_eq_false_of_isScale hscale), (comma_word w hw hscale).2.1, hscale]
    | hyphen =>
      have hv : v ∈ NumberWord.all := ht (.hyphen, v) List.mem_cons_self
      have ht' : ∀ p ∈ t, p.2 ∈ NumberWord.all := fun p hp => ht p (List.mem_cons_of_mem _ hp)
      obtain ⟨hten, hunit⟩ := hj.hyphen rfl
      -- The word goes on behind the hyphen, and neither a ten nor a unit is a scale.
      obtain ⟨first, rest, htokens, hfirst⟩ := ih (token_hyphen hw hten hv hunit) hv ht' h
      refine ⟨first, rest, ?_, ?_⟩
      · rw [tokens, hcur.eq_word (isUnit_eq_false_of_isTen hten), htokens]
      · rw [hfirst, isScale_eq_false_of_isUnit hunit, isScale_eq_false_of_isTen hten]

/-- **What is said before a scale**: something that divides exactly behind another multiplier. -/
theorem predecessors_tokens (hcur : Token cur w) (hw : w ∈ NumberWord.all)
    (ht : ∀ p ∈ t, p.2 ∈ NumberWord.all) (h : Along (fun w j v _ => Joined w j v) w t) :
    (predecessors isScaleWord (tokens cur t)).map isDivider = divided (some w) (t.map (·.2)) := by
  induction t generalizing w cur with
  | nil => rfl
  | cons p t ih =>
    obtain ⟨j, v⟩ := p
    obtain ⟨hj, h⟩ := h
    have hv : v ∈ NumberWord.all := ht (j, v) List.mem_cons_self
    have ht' : ∀ p ∈ t, p.2 ∈ NumberWord.all := fun p hp => ht p (List.mem_cons_of_mem _ hp)
    have hrest := ih (token_word hv) hv ht' h
    -- What stands before a word is read off together with the word, so the step says it for any
    -- word before.
    have hstep (before : String) :
        (predecessors isScaleWord (before :: tokens (word v) t)).map isDivider =
          if v.isScale then isDivider before :: divided (some v) (t.map (·.2))
          else divided (some v) (t.map (·.2)) := by
      obtain ⟨first, rest, htokens, hfirst⟩ := exists_tokens_eq_cons (token_word hv) hv ht' h
      rw [htokens] at hrest ⊢
      rw [predecessors, hfirst, ← hrest]
      split_ifs <;> rfl
    rw [List.map_cons, divided]
    cases j with
    | hyphen =>
      obtain ⟨hten, hunit⟩ := hj.hyphen rfl
      rw [tokens, hcur.eq_word (isUnit_eq_false_of_isTen hten),
        if_neg (by simp [isScale_eq_false_of_isUnit hunit])]
      exact ih (token_hyphen hw hten hv hunit) hv ht' h
    | blank =>
      rw [tokens, hstep, hcur.divider]
      split_ifs with hscale
      · have hhundred : w ≠ .hundred := fun h => Joint.noConfusion (hj.hundred h)
        rw [Option.any_some,
          isMultiplier_eq_false hhundred fun h => hj.scales h hscale rfl]
      · rfl
    | and =>
      have hand : isScaleWord "and" = false ∧ isDivider "and" := by decide
      rw [tokens, predecessors, hand.1, if_neg Bool.false_ne_true, hstep, hand.2, Option.any_some,
        hj.and rfl]
    | comma =>
      have hscale := hj.comma rfl
      rw [tokens, hstep, hcur.eq_word (isUnit_eq_false_of_isScale hscale),
        (comma_word w hw hscale).2.2, Option.any_some, isMultiplier_of_isScale hscale]

/-! ## What is said -/

variable {n : Int64} {ws : List NumberWord}

theorem toList_phrase_map (w : NumberWord) (ws : List NumberWord) :
    (phrase ((w :: ws).map (NumberWord.inWords vocabulary))).toList = render w (blanks ws) := by
  induction ws generalizing w with
  | nil =>
    rw [List.map_singleton, toList_phrase_single, blanks, render, List.map_nil, renderTail,
      List.append_nil]
    rfl
  | cons v ws ih =>
    rw [List.map_cons, toList_phrase_cons (by simp), ih]
    rfl

/-- The words of what is said for a number that is not zero. -/
def saidWords (n : Int64) (w : NumberWord) (t : Tail) : List String :=
  (if n < 0 then [vocabulary.negative] else []) ++ tokens (word w) t

theorem saidWords_ne_nil : saidWords n w t ≠ [] :=
  List.append_ne_nil_of_right_ne_nil _ (tokens_ne_nil _ _)

theorem isWord_of_mem_saidWords (hw : w ∈ NumberWord.all) (ht : ∀ p ∈ t, p.2 ∈ NumberWord.all) :
    ∀ s ∈ saidWords n w t, IsWord s := by
  intro s hs
  rcases List.mem_append.1 hs with hs | hs
  · split_ifs at hs
    · rw [List.mem_singleton.1 hs]
      exact clear_vocabulary.isWord_negative
    · cases hs
  · exact isWord_of_mem_tokens (isWord_word hw) ht s hs

/-- The words are found again between the blanks. -/
theorem Sayable.splitAt_saidWords (h : Sayable w ws) (ht : t.map (·.2) = ws) :
    Text.splitAt ' ' (phrase (saidWords n w t)) = saidWords n w t :=
  splitAt_phrase (isWord_of_mem_saidWords (h.mem_all w List.mem_cons_self) (h.mem_tail ht))
    saidWords_ne_nil

/-- **What is said** with rules that rewrite the phrase of a number. -/
theorem speak_of_polished {m : Mapping} {fs : List Rewriter} (hwords : m.words = vocabulary)
    (hrules : List.Forall₂ Rule.Does m.rules fs) (hn : n ≠ 0)
    (hspelled : spelled n.toInt.natAbs = w :: ws) (hw : w ∈ NumberWord.all)
    (ht : ∀ p ∈ t, p.2 ∈ NumberWord.all)
    (h : Polished fs (render w (blanks ws)) (render w t)) :
    m.speak n = .ok (phrase (saidWords n w t)) := by
  have hnumber : (phrase (m.words.number n.toInt.natAbs)).toList = render w (blanks ws) := by
    rw [hwords, Vocabulary.number_eq clear_vocabulary, hspelled, toList_phrase_map]
  have hsaid : m.applyRules (phrase (m.words.number n.toInt.natAbs)) =
      .ok (phrase (tokens (word w) t)) := by
    have htext : String.ofList (render w t) = phrase (tokens (word w) t) := by
      rw [← String.ofList_toList (s := phrase (tokens (word w) t)), toList_phrase_tokens]
      rfl
    rw [Mapping.applyRules, hnumber, Mapping.applyFrom_of_polished hrules h, ← htext]
    rfl
  -- The word for minus is put in front, and the whole has no blank at its ends.
  have hwhole : (if n < 0 then m.words.negative ++ " " ++ phrase (tokens (word w) t)
      else phrase (tokens (word w) t)) = phrase (saidWords n w t) := by
    rw [saidWords, hwords]
    split_ifs
    · exact (phrase_cons (tokens_ne_nil _ _)).symm
    · rfl
  rw [Mapping.speak, if_neg hn, hsaid]
  show Except.ok (Text.trim (if n < 0 then _ else _)) = _
  rw [hwhole, trim_phrase (isWord_of_mem_saidWords hw ht)]

/-- **A number in American English**: its number words with hyphens behind tens. -/
theorem speak_standard_american (hn : n ≠ 0) (hspelled : spelled n.toInt.natAbs = w :: ws) :
    Registry.standard.speak n americanKey = .ok (phrase (saidWords n w (americanTail w ws))) := by
  have hsayable := sayable_of_spelled (natAbs_lt n) hspelled
  obtain ⟨american, -, hget, hdoes, -, -⟩ := standard_mappings
  rw [Registry.speak, hget]
  exact speak_of_polished rfl hdoes hn hspelled (hsayable.mem_all w List.mem_cons_self)
    (hsayable.mem_tail map_snd_americanTail) hsayable.polished_american

/-- **A number in British English**: its number words with British joints. -/
theorem speak_standard_british (hn : n ≠ 0) (hspelled : spelled n.toInt.natAbs = w :: ws) :
    Registry.standard.speak n britishKey = .ok (phrase (saidWords n w (britishTail w ws))) := by
  have hsayable := sayable_of_spelled (natAbs_lt n) hspelled
  obtain ⟨-, british, -, -, hget, hdoes⟩ := standard_mappings
  rw [Registry.speak, hget]
  exact speak_of_polished rfl hdoes hn hspelled (hsayable.mem_all w List.mem_cons_self)
    (hsayable.mem_tail map_snd_britishTail) hsayable.polished_british

/-- The words for minus have no part in what is read off a phrase. -/
theorem followers_saidWords : followers (word .hundred) (saidWords n w t) =
    followers (word .hundred) (tokens (word w) t) := by
  have hminus : vocabulary.negative ≠ word .hundred := by decide
  unfold saidWords
  split_ifs
  · rw [List.singleton_append, followers, if_neg hminus]
  · rw [List.nil_append]

theorem predecessors_saidWords (hw : w ∈ NumberWord.all) (hdigits : w.isDigits)
    (ht : ∀ p ∈ t, p.2 ∈ NumberWord.all) (h : Along (fun w j v _ => Joined w j v) w t) :
    predecessors isScaleWord (saidWords n w t) =
      predecessors isScaleWord (tokens (word w) t) := by
  obtain ⟨first, rest, htokens, hfirst⟩ := exists_tokens_eq_cons (token_word hw) hw ht h
  unfold saidWords
  split_ifs
  · rw [List.singleton_append, htokens, predecessors, hfirst, isScale_eq_false_of_isDigits hdigits,
      if_neg Bool.false_ne_true]
  · rw [List.nil_append]

/-- **British English between the words**: what is said for a number that is not zero has `and`
behind a hundred exactly if more digits follow in its group or if the group counts thousands or
millions. Before a scale stands `and` or a word with a comma exactly if its count is a multiple of a
hundred. -/
theorem exists_british_words (hn : n ≠ 0) :
    ∃ words, Registry.standard.speak n britishKey = .ok (phrase words) ∧
      Text.splitAt ' ' (phrase words) = words ∧
      (followers (word .hundred) words).map (fun next => decide (next = some "and")) =
        beyondHundreds (groups false n.toInt.natAbs) ∧
      (predecessors isScaleWord words).map isDivider =
        (counts n.toInt.natAbs).map fun c => decide (c % 100 = 0) := by
  obtain ⟨w, ws, hspelled⟩ := List.exists_cons_of_ne_nil
    (spelled_ne_nil (Mapping.natAbs_ne_zero hn))
  have hsayable := sayable_of_spelled (natAbs_lt n) hspelled
  have hw : w ∈ NumberWord.all := hsayable.mem_all w List.mem_cons_self
  have ht := hsayable.mem_tail (map_snd_britishTail (w := w))
  have hdigits : w.isDigits := hsayable.inOrder.head w rfl
  have hjoined := hsayable.along_britishTail
  refine ⟨_, speak_standard_british hn hspelled,
    hsayable.splitAt_saidWords map_snd_britishTail, ?_, ?_⟩
  · rw [followers_saidWords, followers_tokens (token_word hw) hw ht hjoined, map_snd_britishTail,
      ← hspelled, continued_spelled]
  · rw [predecessors_saidWords hw hdigits ht hjoined,
      predecessors_tokens (token_word hw) hw ht hjoined, map_snd_britishTail]
    -- No number begins with a scale, so that it does not matter what stands in front.
    have hfirst : divided (some w) ws = divided none (w :: ws) := by
      rw [divided, if_neg (by simp [isScale_eq_false_of_isDigits hdigits])]
    rw [hfirst, ← hspelled, divided_spelled]

/-- **Counts are kept together**: behind the word for hundred stands `and` exactly in the groups
whose last two digits are not zero, and no scale has `and` or a comma before it. -/
structure KeepsCounts (n : Nat) (words : List String) : Prop where
  hundreds : (followers (word .hundred) words).map (fun next => decide (next = some "and")) =
    ((groups false n).filter fun (c, _) => 100 ≤ c).map fun (c, _) => c % 100 != 0
  scales : ∀ before ∈ predecessors isScaleWord words, isDivider before = false

/-- What is read off a phrase shows whether counts are kept together. -/
theorem keepsCounts_iff {n : Nat} {words : List String}
    (hfollowers : (followers (word .hundred) words).map (fun next => decide (next = some "and")) =
      beyondHundreds (groups false n))
    (hpredecessors : (predecessors isScaleWord words).map isDivider =
      (counts n).map fun c => decide (c % 100 = 0)) :
    KeepsCounts n words ↔ ∀ c ∈ counts n, c % 100 ≠ 0 := by
  constructor
  · intro h c hc hzero
    have hmem : true ∈ (predecessors isScaleWord words).map isDivider := by
      rw [hpredecessors]
      exact List.mem_map.2 ⟨c, hc, decide_eq_true hzero⟩
    obtain ⟨before, hbefore, hdivider⟩ := List.mem_map.1 hmem
    exact absurd ((h.scales before hbefore).symm.trans hdivider) Bool.false_ne_true
  · intro h
    refine ⟨hfollowers.trans (List.map_congr_left fun group hgroup => ?_), fun before hbefore => ?_⟩
    -- The two readings of a hundred differ only if its group counts a scale, and no count is a
    -- multiple of a hundred.
    · obtain ⟨c, scaled⟩ := group
      cases scaled with
      | false => exact Bool.or_false _
      | true =>
        have hc : c % 100 ≠ 0 := by
          rcases exists_count_of_mem_groups (List.mem_of_mem_filter hgroup) with
            ⟨k, hk, hmod⟩ | ⟨h, -⟩
          · exact hmod ▸ h k hk
          · cases h
        simp [hc]
    · have hmem : isDivider before ∈ (counts n).map fun c => decide (c % 100 = 0) :=
        hpredecessors ▸ List.mem_map_of_mem hbefore
      obtain ⟨c, hc, hdivider⟩ := List.mem_map.1 hmem
      exact hdivider.symm.trans (decide_eq_false (h c hc))

/-- **British English between the words**. What is said for a number that is not zero has `and`
behind a hundred exactly if more digits follow in its group or if the group counts thousands or
millions. Before a scale stands `and` or a comma exactly if its count is a multiple of a hundred. So
counts are kept together exactly if none of them is one. -/
theorem speak_british (hn : n ≠ 0) :
    ∃ text, Registry.standard.speak n britishKey = .ok text ∧
      (followers (word .hundred) (Text.splitAt ' ' text)).map
          (fun next => decide (next = some "and")) = beyondHundreds (groups false n.toInt.natAbs) ∧
      (predecessors isScaleWord (Text.splitAt ' ' text)).map isDivider =
        (counts n.toInt.natAbs).map (fun c => decide (c % 100 = 0)) ∧
      (KeepsCounts n.toInt.natAbs (Text.splitAt ' ' text) ↔
        ∀ c ∈ counts n.toInt.natAbs, c % 100 ≠ 0) := by
  obtain ⟨words, hspeak, hsplit, hfollowers, hpredecessors⟩ := exists_british_words hn
  refine ⟨phrase words, hspeak, ?_⟩
  rw [hsplit]
  exact ⟨hfollowers, hpredecessors, keepsCounts_iff hfollowers hpredecessors⟩

/-- The number with the most groups has no count that is a multiple of a hundred. -/
theorem speak_british_minValue :
    ∃ text, Registry.standard.speak Int64.minValue britishKey = .ok text ∧
      KeepsCounts 9223372036854775808 (Text.splitAt ' ' text) := by
  obtain ⟨text, hspeak, -, -, hkeeps⟩ := speak_british (n := Int64.minValue) (by decide)
  exact ⟨text, hspeak, hkeeps.2 (by decide +kernel)⟩

/-- A count that is a multiple of a hundred is taken apart. -/
theorem speak_hundred_thousand :
    Registry.standard.speak 100000 britishKey = .ok "one hundred and thousand" ∧
      ¬ KeepsCounts 100000 (Text.splitAt ' ' "one hundred and thousand") := by
  have hspelled : spelled 100000 = [.unit 1, .hundred, .thousand] :=
    spelled_thousand (t := 100) (r := 0) (by decide) (by decide) (by decide)
  refine ⟨?_, fun h => ?_⟩
  · rw [speak_standard_british (n := 100000) (by decide) hspelled]
    decide +kernel
  · exact absurd (h.scales "and" (by decide +kernel)) (by decide)

end English

end Phrasebook.Speech
