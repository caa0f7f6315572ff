import Mathlib.Data.List.Basic
import Mathlib.Data.List.Nodup
import Phrasebook.Proofs.CompiledMapping
import Phrasebook.Proofs.NumberWords
import Phrasebook.Speech.English
import Phrasebook.Text.Dotted

/-!
# Reading spoken numbers

**Clear vocabularies** (`Vocabulary.Clear`). The thirty number words are words that differ from each
other, and the words for minus and zero are words that differ from them.

**Reading** (`Vocabulary.read?`). A text is taken apart at its blanks. A word for minus in front
makes the number negative, and the other words are heard one after another.

**Phrases.** Words one blank apart are found again between the blanks (`splitAt_phrase`), and
nothing is lost at the ends (`trim_phrase`).

Main result: `read_speak`. With a clear vocabulary and no rules, what is said for a number reads as
that number, so no two numbers sound the same.
-/

namespace Phrasebook

/-! ## Words and phrases -/

namespace Text

/-- A text of at least one character, none of them a blank. -/
structure IsWord (s : String) : Prop where
  ne_empty : s ≠ ""
  no_blank : ∀ c ∈ s.toList, isBlank c = false

instance (s : String) : Decidable (IsWord s) :=
  decidable_of_iff (s ≠ "" ∧ s.toList.all fun c => !isBlank c)
    ⟨fun h => ⟨h.1, by simpa using h.2⟩, fun h => ⟨h.1, by simpa using h.2⟩⟩

theorem IsWord.space_notMem {s : String} (h : IsWord s) : ' ' ∉ s.toList := fun hc =>
  absurd (h.no_blank _ hc) (by decide)

theorem IsWord.toList_ne_nil {s : String} (h : IsWord s) : s.toList ≠ [] :=
  fun hs => h.ne_empty (String.toList_eq_nil_iff.1 hs)

end Text

namespace Speech

open Text (IsWord)

theorem toList_phrase (words : List String) :
    (phrase words).toList = [' '].intercalate (words.map String.toList) :=
  String.toList_intercalate

theorem toList_phrase_cons {w : String} {words : List String} (h : words ≠ []) :
    (phrase (w :: words)).toList = w.toList ++ ' ' :: (phrase words).toList := by
  rw [toList_phrase, toList_phrase, List.map_cons,
    List.intercalate_cons_of_ne_nil (by simpa using h), List.append_assoc]
  rfl

@[simp] theorem toList_phrase_single (w : String) : (phrase [w]).toList = w.toList := by
  rw [toList_phrase]
  simp

theorem phrase_cons {w : String} {words : List String} (h : words ≠ []) :
    phrase (w :: words) = w ++ " " ++ phrase words := by
  apply String.toList_injective
  rw [toList_phrase_cons h]
  simp

/-- **Words are found again** between the blanks of a phrase. -/
theorem splitAt_phrase {words : List String} (h : ∀ w ∈ words, IsWord w) (hne : words ≠ []) :
    Text.splitAt ' ' (phrase words) = words := by
  exact Text.splitAt_intercalate ' ' (fun w hw => (h w hw).space_notMem) hne

theorem head?_phrase {w : String} {words : List String} (hw : IsWord w) :
    (phrase (w :: words)).toList.head? = w.toList.head? := by
  cases words with
  | nil => rw [toList_phrase_single]
  | cons w' words =>
    rw [toList_phrase_cons (List.cons_ne_nil _ _),
      List.head?_append_of_ne_nil _ hw.toList_ne_nil]

theorem phrase_toList_ne_nil {words : List String} (h : ∀ w ∈ words, IsWord w)
    (hne : words ≠ []) : (phrase words).toList ≠ [] := by
  obtain ⟨w, words, rfl⟩ := List.exists_cons_of_ne_nil hne
  intro hnil
  have hhead : (phrase (w :: words)).toList.head? = w.toList.head? :=
    head?_phrase (h w List.mem_cons_self)
  rw [hnil] at hhead
  exact (h w List.mem_cons_self).toList_ne_nil (List.head?_eq_none_iff.1 hhead.symm)

theorem no_blank_of_getLast? {words : List String} (h : ∀ w ∈ words, IsWord w) {c : Char}
    (hc : c ∈ (phrase words).toList.getLast?) : Text.isBlank c = false := by
  induction words with
  | nil => cases hc
  | cons w words ih =>
    have hrest : ∀ x ∈ words, IsWord x := fun x hx => h x (List.mem_cons_of_mem _ hx)
    by_cases hne : words = []
    · rw [hne, toList_phrase_single] at hc
      exact (h w List.mem_cons_self).no_blank c (List.mem_of_getLast? hc)
    · rw [toList_phrase_cons hne, List.getLast?_append,
        List.getLast?_cons_of_ne_nil (phrase_toList_ne_nil hrest hne)] at hc
      refine ih hrest ?_
      cases hlast : (phrase words).toList.getLast? with
      | none => exact absurd (List.getLast?_eq_none_iff.1 hlast) (phrase_toList_ne_nil hrest hne)
      | some last => rwa [hlast] at hc

/-- **Nothing is trimmed** from words one blank apart. -/
theorem trim_phrase {words : List String} (h : ∀ w ∈ words, IsWord w) :
    Text.trim (phrase words) = phrase words := by
  have hfirst : ∀ c ∈ (phrase words).toList.head?, Text.isBlank c = false := by
    intro c hc
    cases words with
    | nil => cases hc
    | cons w words =>
      have hw := h w List.mem_cons_self
      rw [head?_phrase hw] at hc
      exact hw.no_blank c (List.mem_of_head? hc)
  rw [Text.trim, Text.trimBlanks_eq_self hfirst fun c => no_blank_of_getLast? h,
    String.ofList_toList]

/-! ## Reading -/

namespace Vocabulary

/-- The thirty number words. -/
def numberWords (v : Vocabulary) : List String :=
  v.units.toList ++ v.teens.toList ++ v.tens.toList ++ [v.hundred, v.thousand, v.million]

/-- The number words, minus and zero are words, and the number words differ from each other and from
minus and zero. -/
structure Clear (v : Vocabulary) : Prop where
  isWord : ∀ w ∈ v.numberWords, IsWord w
  nodup : v.numberWords.Nodup
  isWord_negative : IsWord v.negative
  isWord_zero : IsWord v.zero
  negative_notMem : v.negative ∉ v.numberWords
  zero_notMem : v.zero ∉ v.numberWords

/-- The number word that a word stands for. -/
def meaning? (v : Vocabulary) (word : String) : Option NumberWord :=
  NumberWord.all.find? fun w => w.inWords v = word

/-- The number that words count to. -/
def count? (v : Vocabulary) (words : List String) : Option Nat :=
  (words.mapM v.meaning?).map fun heard => (Count.hearAll {} heard).value

/-- The number that a text says. -/
def read? (v : Vocabulary) (text : String) : Option Int :=
  match Text.splitAt ' ' text with
  | [] => none
  | first :: rest =>
    if first = v.negative then (v.count? rest).map fun n : Nat => -(n : Int)
    else (v.count? (first :: rest)).map fun n : Nat => (n : Int)

variable {v : Vocabulary}

theorem map_inWords_all (v : Vocabulary) :
    NumberWord.all.map (NumberWord.inWords v) = v.numberWords := by
  have hrow {k : Nat} (low : Nat) (words : Vector String k) (word : Nat → String)
      (h : ∀ i (hi : i < k), word (low + i) = words[i]) :
      (List.range' low k).map word = words.toList := by
    apply List.ext_getElem
    · simp
    · intro i hi _
      simpa using h i (by simpa using hi)
  have hunits := hrow 1 v.units v.unit fun i hi => by simp [unit, hi]
  have hteens := hrow 10 v.teens v.teen fun i hi => by simp [teen, hi]
  have htens := hrow 2 v.tens v.ten fun i hi => by simp [ten, hi]
  simp only [NumberWord.all, List.map_append, List.map_map, numberWords, ← hunits, ← hteens,
    ← htens]
  rfl

theorem inWords_mem {w : NumberWord} (h : w ∈ NumberWord.all) : w.inWords v ∈ v.numberWords :=
  map_inWords_all v ▸ List.mem_map_of_mem h

/-- **A word of a clear vocabulary has one meaning.** -/
theorem meaning?_inWords (hv : v.Clear) {w : NumberWord} (h : w ∈ NumberWord.all) :
    v.meaning? (w.inWords v) = some w := by
  cases hf : v.meaning? (w.inWords v) with
  | none =>
    have := List.find?_eq_none.1 hf w h
    simp at this
  | some w' =>
    have hsame : w'.inWords v = w.inWords v := by simpa using List.find?_some hf
    -- The number words differ, so a word that is spelled like another one is the same.
    have hinj := List.inj_on_of_nodup_map (map_inWords_all v ▸ hv.nodup)
    exact congrArg some (hinj (List.mem_of_find?_eq_some hf) h hsame)

theorem mapM_meaning? (hv : v.Clear) {ws : List NumberWord} (h : ∀ w ∈ ws, w ∈ NumberWord.all) :
    (ws.map (NumberWord.inWords v)).mapM v.meaning? = some ws := by
  induction ws with
  | nil => rfl
  | cons w ws ih =>
    rw [List.map_cons, List.mapM_cons, meaning?_inWords hv (h w List.mem_cons_self),
      ih fun x hx => h x (List.mem_cons_of_mem _ hx)]
    rfl

/-- The words of a number in a clear vocabulary: none of them is empty. -/
theorem number_eq (hv : v.Clear) (n : Nat) :
    v.number n = (NumberWord.spelled n).map (NumberWord.inWords v) := by
  rw [number, NumberWord.allWords_eq]
  refine List.filter_eq_self.2 fun word hword => decide_eq_true ?_
  obtain ⟨w, hw, rfl⟩ := List.mem_map.1 hword
  exact (hv.isWord _ (inWords_mem (NumberWord.mem_all_of_mem_spelled hw))).ne_empty

theorem mem_numberWords (hv : v.Clear) {n : Nat} {w : String} (h : w ∈ v.number n) :
    w ∈ v.numberWords := by
  rw [number_eq hv] at h
  obtain ⟨w, hw, rfl⟩ := List.mem_map.1 h
  exact inWords_mem (NumberWord.mem_all_of_mem_spelled hw)

theorem number_ne_nil (hv : v.Clear) {n : Nat} (h : n ≠ 0) : v.number n ≠ [] := by
  rw [number_eq hv]
  simpa using NumberWord.spelled_ne_nil h

theorem count?_number (hv : v.Clear) (n : Nat) : v.count? (v.number n) = some n := by
  rw [count?, number_eq hv, mapM_meaning? hv fun _ => NumberWord.mem_all_of_mem_spelled]
  exact congrArg some (Count.value_spelled n)

end Vocabulary

namespace Mapping

open Vocabulary

/-- What is said for a number without rules: its words, after the word for minus if it is
negative. -/
def plainWords (v : Vocabulary) (n : Int64) : List String :=
  (if n < 0 then [v.negative] else []) ++ v.number n.toInt.natAbs

variable {v : Vocabulary} {m : Mapping} {n : Int64}

theorem natAbs_ne_zero (hn : n ≠ 0) : n.toInt.natAbs ≠ 0 := fun h =>
  hn (Int64.toInt_inj.1 (Int.natAbs_eq_zero.1 h))

theorem plainWords_isWord (hv : v.Clear) {w : String} (h : w ∈ plainWords v n) : IsWord w := by
  rcases List.mem_append.1 h with h | h
  · split_ifs at h
    · rw [List.mem_singleton.1 h]
      exact hv.isWord_negative
    · exact absurd h List.not_mem_nil
  · exact hv.isWord w (mem_numberWords hv h)

theorem plainWords_ne_nil (hv : v.Clear) (hn : n ≠ 0) : plainWords v n ≠ [] :=
  List.append_ne_nil_of_right_ne_nil _ (number_ne_nil hv (natAbs_ne_zero hn))

theorem speak_eq_phrase (hm : m.rules = []) (hv : m.words.Clear) (hn : n ≠ 0) :
    m.speak n = .ok (phrase (plainWords m.words n)) := by
  have hrules : m.applyRules (phrase (m.words.number n.toInt.natAbs)) =
      .ok (phrase (m.words.number n.toInt.natAbs)) := by
    rw [applyRules, hm, applyFrom]
    exact congrArg Except.ok String.ofList_toList
  have hsaid : (if n < 0 then m.words.negative ++ " " ++ phrase (m.words.number n.toInt.natAbs)
      else phrase (m.words.number n.toInt.natAbs)) = phrase (plainWords m.words n) := by
    unfold plainWords
    split_ifs with hneg
    · exact (phrase_cons (number_ne_nil hv (natAbs_ne_zero hn))).symm
    · rfl
  rw [speak, if_neg hn, hrules]
  show Except.ok (Text.trim (if n < 0 then _ else _)) = _
  rw [hsaid, trim_phrase fun w => plainWords_isWord hv]

theorem read?_phrase (hv : v.Clear) (hn : n ≠ 0) :
    v.read? (phrase (plainWords v n)) = some n.toInt := by
  rw [read?, splitAt_phrase (fun w => plainWords_isWord hv) (plainWords_ne_nil hv hn)]
  by_cases hneg : n < 0
  · rw [plainWords, if_pos hneg]
    show (if v.negative = v.negative then (v.count? (v.number n.toInt.natAbs)).map _ else _) = _
    rw [if_pos rfl, count?_number hv]
    have hle : n.toInt ≤ 0 := (Int64.lt_iff_toInt_lt.1 hneg).le
    have habs : -(n.toInt.natAbs : Int) = n.toInt := by
      rw [Int.ofNat_natAbs_of_nonpos hle, Int.neg_neg]
    exact congrArg some habs
  · rw [plainWords, if_neg hneg, List.nil_append]
    obtain ⟨first, rest, hwords⟩ := List.exists_cons_of_ne_nil
      (number_ne_nil hv (natAbs_ne_zero hn))
    -- The first word is a number word, so it is not taken for minus.
    have hfirst : first ≠ v.negative := by
      rintro rfl
      exact hv.negative_notMem (mem_numberWords hv (hwords ▸ List.mem_cons_self))
    rw [hwords]
    show (if first = v.negative then _ else _) = _
    rw [if_neg hfirst, ← hwords, count?_number hv]
    have hle : 0 ≤ n.toInt := Int.not_lt.1 fun hlt => hneg (Int64.lt_iff_toInt_lt.2 hlt)
    exact congrArg some (Int.natAbs_of_nonneg hle)

/-- No number but zero sounds like zero. -/
theorem phrase_ne_zero (hv : v.Clear) (hn : n ≠ 0) : phrase (plainWords v n) ≠ v.zero := by
  intro h
  have hzero : Text.splitAt ' ' v.zero = [v.zero] := by
    have hsplit : Text.splitAt ' ' (phrase [v.zero]) = [v.zero] :=
      splitAt_phrase (by simpa using hv.isWord_zero) (List.cons_ne_nil _ _)
    rwa [show phrase [v.zero] = v.zero from String.toList_injective (toList_phrase_single _)]
      at hsplit
  have hwords : plainWords v n = [v.zero] := by
    rw [← hzero, ← h,
      splitAt_phrase (fun w => plainWords_isWord hv) (plainWords_ne_nil hv hn)]
  have hnumber := number_ne_nil hv (natAbs_ne_zero hn)
  rw [plainWords] at hwords
  -- A single word cannot be minus and a number, and the word for zero is no number word.
  split_ifs at hwords with hneg
  · exact hnumber (List.cons.inj hwords).2
  · exact hv.zero_notMem (mem_numberWords hv (hwords ▸ List.mem_cons_self))

theorem rules_of_compile {key : String} {d : MappingData} (h : compile key d = .ok m)
    (hd : d.rules = []) : m.rules = [] := by
  obtain ⟨-, -, -, -, hrules⟩ := compile_eq_ok h
  rw [hd] at hrules
  exact (Except.ok.inj hrules).symm

/-- **Number words determine the number.** With a clear vocabulary and no rules every number is
said, what is said for a number that is not zero reads as the number, and different numbers are said
differently. -/
theorem read_speak {key : String} {d : MappingData} (hm : compile key d = .ok m)
    (hrules : d.rules = []) (hv : m.words.Clear) :
    (∀ n : Int64, n ≠ 0 → ∃ text, m.speak n = .ok text ∧ m.words.read? text = some n.toInt) ∧
      Function.Injective m.speak := by
  have hsaid {n : Int64} (hn : n ≠ 0) := speak_eq_phrase (rules_of_compile hm hrules) hv hn
  have hzero : m.speak 0 = .ok m.words.zero := rfl
  refine ⟨fun n hn => ⟨_, hsaid hn, read?_phrase hv hn⟩, fun n n' h => ?_⟩
  by_cases hn : n = 0
  · by_cases hn' : n' = 0
    · rw [hn, hn']
    · rw [hn, hzero, hsaid hn'] at h
      exact absurd (Except.ok.inj h).symm (phrase_ne_zero hv hn')
  · by_cases hn' : n' = 0
    · rw [hn', hzero, hsaid hn] at h
      exact absurd (Except.ok.inj h) (phrase_ne_zero hv hn)
    · rw [hsaid hn, hsaid hn'] at h
      have := read?_phrase hv hn
      rw [Except.ok.inj h, read?_phrase hv hn'] at this
      exact Int64.toInt_inj.1 (Option.some.inj this).symm

/-- English words, and the number that has no positive counterpart. -/
theorem read_speak_english :
    ∃ m, compile English.americanKey (English.mapping []) = .ok m ∧ m.words.Clear ∧
      (∃ text, m.speak Int64.minValue = .ok text ∧
        m.words.read? text = some (-9223372036854775808)) ∧
      Function.Injective m.speak := by
  obtain ⟨m, hm, hwords⟩ : ∃ m, compile English.americanKey (English.mapping []) = .ok m ∧
      m.words.Clear := by
    refine ⟨_, rfl, ?_⟩
    constructor <;> decide
  obtain ⟨hread, hinjective⟩ := read_speak hm rfl hwords
  exact ⟨m, hm, hwords, hread Int64.minValue (by decide), hinjective⟩

end Mapping

end Speech

end Phrasebook
