import Phrasebook.Proofs.AmericanPhrase

/-!
# British and American phrases have the same words

**Inserted words** (`plainText`). British rules insert `and` between words and put commas at words.
Without these a British phrase is the American one: the rules change blanks only, so the hyphens of
the first rule stay where they are (`Sayable.along_hyphens`), and no number word is lost, doubled or
moved.

**Hearing** (`hear?`). An American phrase without its hyphens is the row of number words, which
reads as the number (`hear?_american`). So no two numbers are said in the same way.

Main result: `british_same_words`.
-/

namespace Phrasebook.Speech.English

open NumberWord

/-! ## Without inserted words -/

/-- A word without its commas. -/
def withoutCommas (s : String) : String :=
  String.ofList (s.toList.filter (· ≠ ','))

/-- Words without those that are exactly `and`, and without commas. -/
def withoutInserted (words : List String) : List String :=
  (words.filter (· ≠ "and")).map withoutCommas

/-- A text, taken apart at its blanks, without inserted words. -/
def plainText (text : String) : String :=
  phrase (withoutInserted (Text.splitAt ' ' text))

example : plainText "one million, two hundred and six" = "one million two hundred six" := by
  decide +kernel

/-- A word that is not `and` and has no comma. -/
structure IsBare (s : String) : Prop where
  no_comma : ',' ∉ s.toList
  ne_and : s ≠ "and"

instance (s : String) : Decidable (IsBare s) :=
  decidable_of_iff (',' ∉ s.toList ∧ s ≠ "and") ⟨fun h => ⟨h.1, h.2⟩, fun h => ⟨h.1, h.2⟩⟩

variable {cur : String} {words : List String} {w : NumberWord} {ws : List NumberWord} {t : Tail}

theorem isBare_word : ∀ w ∈ NumberWord.all, IsBare (word w) := by
  decide +kernel

/-- A text with a character that `and` has not is another one. -/
theorem ne_and_of_mem {c : Char} (hc : c ∈ cur.toList) (h : c ∉ "and".toList) : cur ≠ "and" := by
  rintro rfl
  exact h hc

theorem IsBare.hyphen {a b : String} (ha : IsBare a) (hb : IsBare b) : IsBare (a ++ "-" ++ b) where
  no_comma := by simp [ha.no_comma, hb.no_comma]
  ne_and := ne_and_of_mem (c := '-') (by simp) (by decide)

theorem IsBare.withoutCommas_eq (h : IsBare cur) : withoutCommas cur = cur := by
  have hfilter : cur.toList.filter (· ≠ ',') = cur.toList :=
    List.filter_eq_self.2 fun c hc => by simpa using ne_of_mem_of_not_mem hc h.no_comma
  rw [withoutCommas, hfilter, String.ofList_toList]

theorem withoutInserted_cons (h : IsBare cur) :
    withoutInserted (cur :: words) = cur :: withoutInserted words := by
  simp [withoutInserted, h.ne_and, h.withoutCommas_eq]

theorem withoutInserted_and : withoutInserted ("and" :: words) = withoutInserted words := by
  simp [withoutInserted]

theorem withoutInserted_comma (h : IsBare cur) :
    withoutInserted ((cur ++ ",") :: words) = cur :: withoutInserted words := by
  have hne : cur ++ "," ≠ "and" := ne_and_of_mem (c := ',') (by simp) (by decide)
  have hcomma : withoutCommas (cur ++ ",") = cur := by
    rw [withoutCommas, String.toList_append, List.filter_append]
    simpa [withoutCommas] using h.withoutCommas_eq
  simp [withoutInserted, hne, hcomma]

/-- **Without inserted words** a phrase is settled by its hyphens. -/
theorem withoutInserted_tokens (hcur : IsBare cur) (ht : ∀ p ∈ t, p.2 ∈ NumberWord.all)
    (h : Along (fun w j v _ => j = .hyphen ↔ (w.isTen && v.isUnit) = true) w t) :
    withoutInserted (tokens cur t) = hyphenWords cur w (t.map (·.2)) := by
  induction t generalizing cur w with
  | nil => exact withoutInserted_cons hcur
  | cons p t ih =>
    obtain ⟨j, v⟩ := p
    obtain ⟨hj, h⟩ := h
    obtain ⟨hv, ht'⟩ := List.forall_mem_cons.1 ht
    have hword := isBare_word v hv
    have hrest := ih hword ht' h
    rw [List.map_cons, hyphenWords]
    cases j with
    | hyphen =>
      rw [tokens, if_pos (hj.1 rfl)]
      exact ih (hcur.hyphen hword) ht' h
    | blank => rw [tokens, if_neg (by simp [← hj]), withoutInserted_cons hcur, hrest]
    | and =>
      rw [tokens, if_neg (by simp [← hj]), withoutInserted_cons hcur, withoutInserted_and, hrest]
    | comma => rw [tokens, if_neg (by simp [← hj]), withoutInserted_comma hcur, hrest]

/-! ## Hyphens stay -/

/-- A rule changes blanks only. -/
theorem along_hyphens_pass (hits : Hits) (new : Joint) (free : Bool)
    (h : Along (fun w j v _ => (w.isTen && v.isUnit) = true → j = .hyphen) w t) :
    Along (fun w j v _ => (w.isTen && v.isUnit) = true → j = .hyphen) w
      (pass hits new free w t) := by
  induction t generalizing w free with
  | nil => trivial
  | cons p t ih =>
    obtain ⟨j, v⟩ := p
    obtain ⟨hj, h⟩ := h
    rw [pass]
    split
    · next hhit =>
      refine ⟨fun hpair => ?_, ih _ h⟩
      -- A rule that changes this joint found a blank there, but it is a hyphen.
      have hblank : j = .blank := hhit.2.1
      rw [hj hpair] at hblank
      cases hblank
    · exact ⟨hj, ih _ h⟩

/-- **Hyphens stand between tens and units**, whatever else British rules insert. -/
theorem Sayable.along_hyphens (h : Sayable w ws) :
    Along (fun w j v _ => j = .hyphen ↔ (w.isTen && v.isUnit) = true) w (britishTail w ws) := by
  have hamerican : Along (fun w j v _ => (w.isTen && v.isUnit) = true → j = .hyphen) w
      (americanTail w ws) := by
    refine along_americanTail.imp fun w j v _ hj hpair => ?_
    rw [hj, hyphenated, if_pos hpair]
  have hbritish := along_hyphens_pass scaleHits .and true
    (along_hyphens_pass commaHits .comma true (along_hyphens_pass hundredHits .and true hamerican))
  refine (h.along_britishTail.and hbritish).imp fun w j v _ hj => ⟨fun he => ?_, hj.2⟩
  simpa using hj.1.hyphen he

/-! ## Hearing -/

/-- The number that a text says when its hyphens are blanks. -/
def hear? (text : String) : Option Int :=
  vocabulary.read? (phrase ((Text.splitAt ' ' text).flatMap (Text.splitAt '-')))

theorem splitAt_word : ∀ w ∈ NumberWord.all, Text.splitAt '-' (word w) = [word w] := by
  have hnone : ∀ w ∈ NumberWord.all, '-' ∉ (word w).toList := by decide +kernel
  exact fun w hw => Text.splitAt_eq_singleton (hnone w hw)

/-- **Without hyphens** a numeral is the row of its number words. -/
theorem flatMap_hyphenWords (hws : ∀ v ∈ ws, v ∈ NumberWord.all) :
    (hyphenWords cur w ws).flatMap (Text.splitAt '-') = Text.splitAt '-' cur ++ ws.map word := by
  induction ws generalizing cur w with
  | nil => simp [hyphenWords]
  | cons v ws ih =>
    obtain ⟨hv, hws⟩ := List.forall_mem_cons.1 hws
    rw [hyphenWords]
    split
    · have hhyphen : Text.splitAt '-' (cur ++ "-" ++ word v) =
          Text.splitAt '-' cur ++ Text.splitAt '-' (word v) :=
        Text.splitAt_append '-' cur (word v)
      rw [ih hws, hhyphen, splitAt_word v hv]
      simp
    · rw [List.flatMap_cons, ih hws, splitAt_word v hv]
      simp

variable {n : Int64}

/-- **What is said in American English is heard** as the number. -/
theorem hear?_american (hn : n ≠ 0) (hspelled : spelled n.toInt.natAbs = w :: ws) :
    hear? (phrase (saidWords n w (americanTail w ws))) = some n.toInt := by
  have hsayable := sayable_of_spelled (natAbs_lt n) hspelled
  have htokens : (tokens (word w) (americanTail w ws)).flatMap (Text.splitAt '-') =
      (w :: ws).map word := by
    rw [tokens_of_hyphenated along_americanTail, map_snd_americanTail,
      flatMap_hyphenWords fun v hv => hsayable.mem_all v (List.mem_cons_of_mem _ hv),
      splitAt_word w (hsayable.mem_all w List.mem_cons_self)]
    rfl
  have hplain : (saidWords n w (americanTail w ws)).flatMap (Text.splitAt '-') =
      Mapping.plainWords vocabulary n := by
    rw [saidWords, Mapping.plainWords, Vocabulary.number_eq clear_vocabulary, hspelled,
      List.flatMap_append, htokens]
    split_ifs
    · rfl
    · rfl
  rw [hear?, hsayable.splitAt_saidWords map_snd_americanTail, hplain,
    Mapping.read?_phrase clear_vocabulary hn]

/-- **British phrases without inserted words** are American phrases. -/
theorem plainText_british (hspelled : spelled n.toInt.natAbs = w :: ws) :
    plainText (phrase (saidWords n w (britishTail w ws))) =
      phrase (saidWords n w (americanTail w ws)) := by
  have hsayable := sayable_of_spelled (natAbs_lt n) hspelled
  have hw : w ∈ NumberWord.all := hsayable.mem_all w List.mem_cons_self
  have ht := hsayable.mem_tail (map_snd_britishTail (w := w))
  have htokens : withoutInserted (tokens (word w) (britishTail w ws)) =
      tokens (word w) (americanTail w ws) := by
    rw [withoutInserted_tokens (isBare_word w hw) ht hsayable.along_hyphens,
      tokens_of_hyphenated along_americanTail, map_snd_britishTail, map_snd_americanTail]
  have hminus : IsBare vocabulary.negative := by decide
  rw [plainText, hsayable.splitAt_saidWords map_snd_britishTail, saidWords, saidWords]
  split_ifs
  · rw [List.singleton_append, withoutInserted_cons hminus, htokens, List.singleton_append]
  · rw [List.nil_append, htokens, List.nil_append]

theorem speak_zero : Registry.standard.speak 0 americanKey = .ok "zero" ∧
    Registry.standard.speak 0 britishKey = .ok "zero" := by
  obtain ⟨_, _, hamerican, -, hbritish, -⟩ := standard_mappings
  rw [Registry.speak, hamerican, Registry.speak, hbritish]
  exact ⟨rfl, rfl⟩

/-- What is said in the two kinds of English, and what is heard. -/
theorem exists_spoken (n : Int64) :
    ∃ text, Registry.standard.speak n britishKey = .ok text ∧
      Registry.standard.speak n americanKey = .ok (plainText text) ∧
      hear? (plainText text) = if n = 0 then none else some n.toInt := by
  by_cases hn : n = 0
  · subst hn
    refine ⟨"zero", speak_zero.2, ?_, ?_⟩
    · have hzero : plainText "zero" = "zero" := by decide +kernel
      rw [hzero, speak_zero.1]
    · decide +kernel
  · obtain ⟨w, ws, hspelled⟩ := List.exists_cons_of_ne_nil
      (spelled_ne_nil (Mapping.natAbs_ne_zero hn))
    refine ⟨_, speak_standard_british hn hspelled, ?_, ?_⟩
    · rw [plainText_british hspelled, speak_standard_american hn hspelled]
    · rw [plainText_british hspelled, hear?_american hn hspelled, if_neg hn]

/-- **British and American English differ by inserted words alone.** What is said for a number in
British English, without `and` and commas, is what is said in American English; and no two numbers
are said in the same way. -/
theorem british_same_words :
    (∀ n : Int64, ∃ text, Registry.standard.speak n britishKey = .ok text ∧
      Registry.standard.speak n americanKey = .ok (plainText text)) ∧
    Function.Injective fun n => Registry.standard.speak n britishKey := by
  constructor
  · intro n
    obtain ⟨text, hbritish, hamerican, -⟩ := exists_spoken n
    exact ⟨text, hbritish, hamerican⟩
  · intro n m h
    -- What is heard tells the numbers apart, and of zero nothing is heard.
    obtain ⟨text, hn, -, hheard⟩ := exists_spoken n
    obtain ⟨text', hm, -, hheard'⟩ := exists_spoken m
    obtain rfl : text = text' := Except.ok.inj (hn.symm.trans (h.trans hm))
    rw [hheard'] at hheard
    by_cases hzero : n = 0
    · by_cases hzero' : m = 0
      · rw [hzero, hzero']
      · simp [hzero, hzero'] at hheard
    · by_cases hzero' : m = 0
      · simp [hzero, hzero'] at hheard
      · simp only [if_neg hzero, if_neg hzero', Option.some.injEq] at hheard
        exact (Int64.toInt_inj.1 hheard).symm

end Phrasebook.Speech.English
