import Phrasebook.Proofs.BritishPhrase

/-!
# American phrases

**Numerals** (`numeral`). The grammar of English numerals, by the size of the number: the count of
millions is a numeral itself, then come the thousands, then the rest. Tens and the unit behind them
are one word with a hyphen; this happens within two digits and nowhere else.

**Hyphens** (`hyphenWords`). The rule for hyphens looks at two neighbours and knows nothing of
digits. A word that multiplies stands at every border between groups of digits (`said_append`), and
it is neither for tens nor for a unit; so the rule goes by the grammar.

Main result: `speak_american`.
-/

namespace Phrasebook.Speech.English

open NumberWord

/-! ## The grammar of numerals -/

/-- The numeral of a number below a hundred. Tens and a unit are one word. -/
def twoDigits (n : Nat) : List String :=
  if n = 0 then []
  else if n < 10 then [vocabulary.unit n]
  else if n < 20 then [vocabulary.teen n]
  else if n % 10 = 0 then [vocabulary.ten (n / 10)]
  else [vocabulary.ten (n / 10) ++ "-" ++ vocabulary.unit (n % 10)]

/-- The numeral of a number below a thousand. -/
def threeDigits (n : Nat) : List String :=
  if n < 100 then twoDigits n
  else vocabulary.unit (n / 100) :: vocabulary.hundred :: twoDigits (n % 100)

/-- The numeral of a number, as the words between its blanks; zero has none. -/
def numeral (n : Nat) : List String :=
  if n < 1000 then threeDigits n
  else if n < 1000000 then threeDigits (n / 1000) ++ vocabulary.thousand :: threeDigits (n % 1000)
  else numeral (n / 1000000) ++ vocabulary.million :: numeral (n % 1000000)
termination_by n
decreasing_by all_goals omega

theorem numeral_of_lt {n : Nat} (h : n < 1000) : numeral n = threeDigits n := by
  rw [numeral, if_pos h]

theorem numeral_thousand {t r : Nat} (ht : t ≠ 0) (ht' : t < 1000) (hr : r < 1000) :
    numeral (1000 * t + r) = threeDigits t ++ vocabulary.thousand :: threeDigits r := by
  have hthousands : (1000 * t + r) / 1000 = t := by omega
  have hrest : (1000 * t + r) % 1000 = r := by omega
  rw [numeral, if_neg (by omega), if_pos (by omega), hthousands, hrest]

theorem numeral_million {m q : Nat} (hm : m ≠ 0) (hq : q < 1000000) :
    numeral (1000000 * m + q) = numeral m ++ vocabulary.million :: numeral q := by
  have hmillions : (1000000 * m + q) / 1000000 = m := by omega
  have hrest : (1000000 * m + q) % 1000000 = q := by omega
  rw [numeral, if_neg (by omega), if_neg (by omega), hmillions, hrest]

example : phrase (numeral 1021000042) = "one thousand twenty-one million forty-two" := by
  decide +kernel

/-! ## Hyphens between neighbours -/

/-- Words with a hyphen between tens and a unit, as they stand between blanks. The first of them is,
or ends with, `cur`, which says `w`. -/
def hyphenWords (cur : String) (w : NumberWord) : List NumberWord → List String
  | [] => [cur]
  | v :: ws =>
    if w.isTen && v.isUnit then hyphenWords (cur ++ "-" ++ word v) v ws
    else cur :: hyphenWords (word v) v ws

/-- Number words with hyphens, as they stand between blanks. -/
def said : List NumberWord → List String
  | [] => []
  | w :: ws => hyphenWords (word w) w ws

variable {cur : String} {w v : NumberWord} {t : Tail} {ws : List NumberWord}

/-- **The rule for hyphens** puts them between tens and units. -/
theorem tokens_of_hyphenated (h : Along (fun w j v _ => j = hyphenated w v) w t) :
    tokens cur t = hyphenWords cur w (t.map (·.2)) := by
  induction t generalizing cur w with
  | nil => rfl
  | cons p t ih =>
    obtain ⟨j, v⟩ := p
    obtain ⟨rfl, h⟩ := h
    rw [List.map_cons, hyphenWords, ← ih h, ← ih h, hyphenated]
    by_cases hpair : (w.isTen && v.isUnit) = true
    · simp [hpair, tokens]
    · simp [hpair, tokens]

theorem hyphenWords_of_isMultiplier (h : w.isMultiplier) (ws : List NumberWord) :
    hyphenWords cur w ws = cur :: said ws := by
  cases ws with
  | nil => rfl
  | cons v ws => simp [hyphenWords, said, isTen_eq_false_of_isMultiplier h]

theorem hyphenWords_append (hv : v.isMultiplier) (ws vs : List NumberWord) :
    hyphenWords cur w (ws ++ v :: vs) = hyphenWords cur w ws ++ word v :: said vs := by
  induction ws generalizing cur w with
  | nil =>
    simp [hyphenWords, isUnit_eq_false_of_isMultiplier hv, hyphenWords_of_isMultiplier hv]
  | cons u ws ih =>
    by_cases hpair : (w.isTen && u.isUnit) = true
    · simp [hyphenWords, hpair, ih]
    · simp [hyphenWords, hpair, ih]

/-- **A multiplier is joined to neither side.** -/
theorem said_append (hv : v.isMultiplier) (ws vs : List NumberWord) :
    said (ws ++ v :: vs) = said ws ++ word v :: said vs := by
  cases ws with
  | nil => exact hyphenWords_of_isMultiplier hv vs
  | cons w ws => exact hyphenWords_append hv ws vs

/-! ## The rule goes by the grammar -/

theorem said_belowHundred (n : Nat) : said (belowHundred n) = twoDigits n := by
  unfold belowHundred twoDigits
  split_ifs <;> rfl

theorem said_chunk (n : Nat) : said (chunk n) = threeDigits n := by
  unfold chunk threeDigits
  by_cases hsmall : n < 100
  · have hzero : n / 100 = 0 := by omega
    rw [if_pos hzero, if_pos hsmall, List.nil_append, said_belowHundred, Nat.mod_eq_of_lt hsmall]
  · have hne : n / 100 ≠ 0 := by omega
    rw [if_neg hne, if_neg hsmall, ← said_belowHundred]
    exact said_append (v := .hundred) rfl [.unit (n / 100)] _

/-- **Words with hyphens make the numeral.** -/
theorem said_spelled (n : Nat) : said (spelled n) = numeral n := by
  induction n using counting with
  | small n hn => rw [spelled_of_lt hn, numeral_of_lt hn, said_chunk]
  | thousands t r ht ht' hr =>
    rw [spelled_thousand ht ht' hr, numeral_thousand ht ht' hr, said_append rfl, said_chunk,
      said_chunk]
    rfl
  | millions m q hm hq ihm ihq =>
    rw [spelled_million hm hq, numeral_million hm hq, said_append rfl, ihm, ihq]
    rfl

theorem tokens_americanTail {n : Nat} (h : spelled n = w :: ws) :
    tokens (word w) (americanTail w ws) = numeral n := by
  rw [tokens_of_hyphenated along_americanTail, map_snd_americanTail, ← said_spelled, h, said]

/-- **A number in American English is its numeral**, behind the word for minus if it is negative.
Zero has a word of its own. -/
theorem speak_american (n : Int64) : Registry.standard.speak n americanKey =
    .ok (if n = 0 then "zero"
      else (if n < 0 then "minus " else "") ++ phrase (numeral n.toInt.natAbs)) := by
  by_cases hn : n = 0
  · obtain ⟨american, -, hget, -⟩ := standard_mappings
    rw [hn, Registry.speak, hget]
    rfl
  · obtain ⟨w, ws, hspelled⟩ := List.exists_cons_of_ne_nil
      (spelled_ne_nil (Mapping.natAbs_ne_zero hn))
    have hnumeral := tokens_americanTail hspelled
    have hne : numeral n.toInt.natAbs ≠ [] := hnumeral ▸ tokens_ne_nil _ _
    rw [speak_standard_american hn hspelled, saidWords, hnumeral, if_neg hn]
    by_cases hneg : n < 0
    · rw [if_pos hneg, if_pos hneg, List.singleton_append, phrase_cons hne]
      rfl
    · rw [if_neg hneg, if_neg hneg, List.nil_append, String.empty_append]

end Phrasebook.Speech.English
