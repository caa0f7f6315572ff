import Phrasebook.Proofs.CompiledMapping
import Phrasebook.Proofs.NumberWords
import Phrasebook.Speech.English

/-!
# Places in the lists of words

A vocabulary answers every question for a word, with an empty text where its list has no such
place. What a number asks for has a place.

**Questions** (`NumberWord.lookups`). They are recorded by the same putting together that gives the
words (`NumberWord.allWords_eq_lookups`), and each is for a digit in range
(`inRange_of_mem_lookups`).

**Places** (`MappingData.word?`). A mapping that was compiled from data answers a question in range
with the word at its place in the lists of the data (`word?_eq`).

Main result: `speak_at_places`. What is said for a number is made of words from the lists.
-/

namespace Phrasebook.Speech

namespace NumberWord

/-- A word for a number that has one: a unit from 1 to 9, a teen from 10 to 19, a digit of tens from
2 to 9. -/
def InRange : NumberWord → Prop
  | unit digit => 1 ≤ digit ∧ digit ≤ 9
  | teen n => 10 ≤ n ∧ n ≤ 19
  | ten digit => 2 ≤ digit ∧ digit ≤ 9
  | hundred | thousand | million => True

instance : DecidablePred InRange
  | unit digit => inferInstanceAs (Decidable (1 ≤ digit ∧ digit ≤ 9))
  | teen n => inferInstanceAs (Decidable (10 ≤ n ∧ n ≤ 19))
  | ten digit => inferInstanceAs (Decidable (2 ≤ digit ∧ digit ≤ 9))
  | hundred | thousand | million => isTrue trivial

theorem inRange_of_mem_all {w : NumberWord} (h : w ∈ all) : w.InRange := by
  have hall : ∀ w ∈ all, w.InRange := by decide
  exact hall w h

/-- **Every question is in range.** -/
theorem inRange_of_mem_lookups {n : Nat} {w : NumberWord} (h : w ∈ lookups n) : w.InRange := by
  rw [lookups_eq_spelled] at h
  exact inRange_of_mem_all (mem_all_of_mem_spelled h)

end NumberWord

/-- The word at the place of a number word in the lists of a mapping, if there is such a place. -/
def MappingData.word? (d : MappingData) : NumberWord → Option String
  | .unit digit => if 1 ≤ digit then d.units[digit - 1]? else none
  | .teen n => if 10 ≤ n then d.teens[n - 10]? else none
  | .ten digit => if 2 ≤ digit then d.tens[digit - 2]? else none
  | .hundred => d.hundred
  | .thousand => d.thousand
  | .million => d.million

namespace Mapping

variable {key : String} {d : MappingData} {m : Mapping}

/-- A digit that has a place in a list has the same one in the vector that was made of the list, so
the empty text for the others is not used. -/
theorem place_eq_some {k low digit : Nat} {words : Vector String k} {list : List String}
    (h : words.toList = list) (hlow : low ≤ digit) (hhigh : digit < low + k) :
    (if low ≤ digit then list[digit - low]? else none) =
      some (if low ≤ digit then words[digit - low]?.getD "" else "") := by
  have hplace : digit - low < k := Nat.sub_lt_left_of_lt_add hlow hhigh
  subst h
  rw [if_pos hlow, if_pos hlow]
  simp [hplace]

/-- **A question in range is answered** with the word at its place. -/
theorem word?_eq (hm : compile key d = .ok m) {w : NumberWord} (hw : w.InRange) :
    d.word? w = some (w.inWords m.words) := by
  obtain ⟨-, hunits, hteens, htens, -⟩ := compile_eq_ok hm
  obtain ⟨-, hhundred, hthousand, hmillion⟩ := single_words_of_compile hm
  cases w with
  | unit digit => exact place_eq_some hunits hw.1 (Nat.lt_succ_of_le hw.2)
  | teen n => exact place_eq_some hteens hw.1 (Nat.lt_succ_of_le hw.2)
  | ten digit => exact place_eq_some htens hw.1 (Nat.lt_succ_of_le hw.2)
  | hundred => exact congrArg some hhundred.symm
  | thousand => exact congrArg some hthousand.symm
  | million => exact congrArg some hmillion.symm

/-- The words of a mapping for a number are at their places in the lists of the data. -/
structure AtPlaces (d : MappingData) (m : Mapping) (size : Nat) : Prop where
  /-- No more than three levels are entered: what would become of a further one does not matter. -/
  levels : ∀ beyond, within m.words.wording.chunk m.words.thousand m.words.million beyond 3 size =
    m.words.allWords size
  /-- The words are those of the chunks and scales that the number is put together from. -/
  parts : m.words.allWords size = (numberParts size).flatMap
    (NumberPart.say m.words.wording.chunk m.words.thousand m.words.million)
  /-- Only numbers from 1 to 999 are chunks. -/
  chunks : ∀ k, .chunk k ∈ numberParts size → 1 ≤ k ∧ k ≤ 999
  /-- The words are the answers to what is asked for. -/
  answers : m.words.allWords size =
    (NumberWord.lookups size).map (NumberWord.inWords m.words)
  /-- What is asked for counts to the number. -/
  counts : (Count.hearAll {} (NumberWord.lookups size)).value = size
  /-- Each question is in range, and its answer is the word at its place. -/
  places : ∀ w ∈ NumberWord.lookups size, w.InRange ∧ d.word? w = some (w.inWords m.words)

/-- What is said for a number that is not zero: its words, without those that are empty, after the
rules, and the word for minus in front of them. -/
theorem speak_eq_of_compile (hm : compile key d = .ok m) {n : Int64} (hn : n ≠ 0) :
    m.speak n = (m.applyRules (phrase ((m.words.allWords n.toInt.natAbs).filter (· ≠ "")))).map
      fun said => Text.trim (if n < 0 then d.negative ++ " " ++ said else said) := by
  obtain ⟨hnegative, -⟩ := single_words_of_compile hm
  rw [speak, if_neg hn, hnegative]
  show (m.applyRules (phrase (m.words.number n.toInt.natAbs))).bind _ = _
  rw [Vocabulary.number]
  cases m.applyRules (phrase ((m.words.allWords n.toInt.natAbs).filter (· ≠ ""))) <;> rfl

/-- **A number is said in words that are in the lists.** With a mapping that compiles, every number
but zero is put together from words at their places in the lists, and what is said is made of
them. -/
theorem speak_at_places (hm : compile key d = .ok m) {n : Int64} (hn : n ≠ 0) :
    AtPlaces d m n.toInt.natAbs ∧
    m.speak n = (m.applyRules (phrase ((m.words.allWords n.toInt.natAbs).filter (· ≠ "")))).map
      fun said => Text.trim (if n < 0 then d.negative ++ " " ++ said else said) := by
  refine ⟨⟨fun beyond => within_eq_scaled (natAbs_lt n), scaled_eq_flatMap _ _ _ _,
    fun k => chunk_mem_numberParts, NumberWord.allWords_eq_lookups m.words _, ?_, fun w hw => ?_⟩,
    speak_eq_of_compile hm hn⟩
  · rw [NumberWord.lookups_eq_spelled]
    exact Count.value_spelled _
  · have hrange : w.InRange := NumberWord.inRange_of_mem_lookups hw
    exact ⟨hrange, word?_eq hm hrange⟩

/-- The number that has no positive counterpart, in English words. -/
theorem speak_at_places_english :
    ∃ m, compile English.americanKey (English.mapping []) = .ok m ∧
      numberParts Int64.minValue.toInt.natAbs = [.chunk 9, .million, .chunk 223, .thousand,
        .chunk 372, .million, .chunk 36, .thousand, .chunk 854, .million, .chunk 775, .thousand,
        .chunk 808] ∧
      AtPlaces (English.mapping []) m Int64.minValue.toInt.natAbs := by
  obtain ⟨m, hm⟩ : ∃ m, compile English.americanKey (English.mapping []) = .ok m := ⟨_, rfl⟩
  obtain ⟨hplaces, -⟩ := speak_at_places hm (n := Int64.minValue) (by decide)
  exact ⟨m, hm, by cbv, hplaces⟩

end Mapping

end Phrasebook.Speech
