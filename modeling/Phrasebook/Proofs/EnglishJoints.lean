import Phrasebook.Proofs.JoinedWords

/-!
# English joints

**Rule by rule.** The first rule writes a hyphen between tens and a unit, the second `and` behind
each hundred (`hyphenated`, `hundredsJoined`). The third rule writes a comma behind a scale only
where a blank follows the next word, and the last one writes `and` behind a scale that still has a
blank behind it.

**Scales in a row** (`CommaJoined`). The third rule passes over every second scale in a row, and the
last one does the same with what is left. With no more than three in a row they leave no blank
between two of them.

Main results: `polished_american`, `polished_british`, and `along_britishTail`, which says what
stands between two words in the end.
-/

namespace Phrasebook.Speech.English

open Regex NumberWord

variable {w v : NumberWord} {j : Joint} {t : Tail} {free : Bool}

/-! ## Joints after each rule -/

/-- The joint of two words after the first rule. -/
def hyphenated (w v : NumberWord) : Joint :=
  if w.isTen && v.isUnit then .hyphen else .blank

/-- The joint of two words after the second rule. -/
def hundredsJoined (w v : NumberWord) : Joint :=
  if w = .hundred then .and else hyphenated w v

/-- A joint after the third rule, with what comes next. Of three scales in a row there is a comma
between two. -/
structure CommaJoined (w : NumberWord) (j : Joint) (v : NumberWord)
    (next : Option (Joint × NumberWord)) : Prop where
  joint : j = hundredsJoined w v ∨ w.isScale ∧ j = .comma
  scales : w.isScale → j = .blank → v.isScale → ∀ p ∈ next, p.2.isScale → p.1 ≠ .blank

/-- A joint after all rules. -/
structure Joined (w : NumberWord) (j : Joint) (v : NumberWord) : Prop where
  hundred : w = .hundred → j = .and
  scales : w.isScale → v.isScale → j ≠ .blank
  hyphen : j = .hyphen → w.isTen ∧ v.isUnit
  and : j = .and → w.isMultiplier
  comma : j = .comma → w.isScale

theorem hundredsJoined_of_isScale (h : w.isScale) : hundredsJoined w v = .blank := by
  cases w <;> first | rfl | cases h

theorem isScale_eq_false_of_isUnit (h : w.isUnit) : w.isScale = false := by
  cases w <;> first | rfl | cases h

theorem isScale_eq_false_of_isTen (h : w.isTen) : w.isScale = false := by
  cases w <;> first | rfl | cases h

theorem isUnit_eq_false_of_isTen (h : w.isTen) : w.isUnit = false := by
  cases w <;> first | rfl | cases h

theorem isUnit_eq_false_of_isScale (h : w.isScale) : w.isUnit = false := by
  cases w <;> first | rfl | cases h

theorem isMultiplier_of_isScale (h : w.isScale) : w.isMultiplier := by
  cases w <;> first | rfl | cases h

theorem isUnit_eq_false_of_isMultiplier (h : w.isMultiplier) : w.isUnit = false := by
  cases w <;> first | rfl | cases h

theorem isTen_eq_false_of_isMultiplier (h : w.isMultiplier) : w.isTen = false := by
  cases w <;> first | rfl | cases h

theorem isMultiplier_eq_false (hhundred : w ≠ .hundred) (hscale : ¬ w.isScale) :
    w.isMultiplier = false := by
  cases w <;> simp_all [isMultiplier, isScale]

theorem Joined.of_and (hw : w.isMultiplier) : Joined w .and v where
  hundred _ := rfl
  scales _ _ h := nomatch h
  hyphen h := nomatch h
  and _ := hw
  comma h := nomatch h

theorem Joined.of_comma (hw : w.isScale) : Joined w .comma v where
  hundred h := by
    rw [h] at hw
    cases hw
  scales _ _ h := nomatch h
  hyphen h := nomatch h
  and h := nomatch h
  comma _ := hw

theorem Joined.of_hundredsJoined (h : w.isScale → v.isScale → hundredsJoined w v ≠ .blank) :
    Joined w (hundredsJoined w v) v where
  hundred hw := if_pos hw
  scales := h
  hyphen := by
    unfold hundredsJoined hyphenated
    split_ifs with hw hten <;> simp_all
  and := by
    unfold hundredsJoined hyphenated
    split_ifs with hw <;> simp_all [isMultiplier]
  comma := by
    unfold hundredsJoined hyphenated
    split_ifs <;> simp

theorem along_hyphen (h : Along (fun _ j _ _ => j = .blank) w t) (hfree : free ∨ w.isTen = false) :
    Along (fun w j v _ => j = hyphenated w v) w (pass hyphenHits .hyphen free w t) := by
  induction t generalizing w free with
  | nil => trivial
  | cons p t ih =>
    obtain ⟨j, v⟩ := p
    obtain ⟨rfl, h⟩ := h
    rw [pass]
    split
    · next hhit =>
      have hhit : (w.isTen && v.isUnit) = true := hhit.2.2
      -- A unit was taken, and it is no ten itself, so nothing is missed behind it.
      refine ⟨(if_pos hhit).symm, ih h (.inr ?_)⟩
      cases v <;> simp [isUnit, isTen] at hhit ⊢
    · next hmiss =>
      refine ⟨(if_neg fun hhit => ?_).symm, ih h (.inl rfl)⟩
      rcases hfree with hfree | hten
      · exact hmiss ⟨hfree, rfl, hhit⟩
      · simp [hten] at hhit

theorem along_hundred (h : Along (fun w j v _ => j = hyphenated w v ∧ Follows w v) w t)
    (hfree : free ∨ w ≠ .hundred) :
    Along (fun w j v _ => j = hundredsJoined w v) w (pass hundredHits .and free w t) := by
  induction t generalizing w free with
  | nil => trivial
  | cons p t ih =>
    obtain ⟨j, v⟩ := p
    obtain ⟨⟨rfl, hfollows⟩, h⟩ := h
    rw [pass]
    split
    · next hhit =>
      have hhit : w = .hundred ∧ v ≠ .hundred := by simpa [hundredHits] using hhit.2.2
      exact ⟨(if_pos hhit.1).symm, ih h (.inr hhit.2)⟩
    · next hmiss =>
      refine ⟨(if_neg fun hw => ?_).symm, ih h (.inl rfl)⟩
      subst hw
      rcases hfree with hfree | hne
      · have hv : v ≠ .hundred := fun hv => absurd (hfollows.2 hv) Bool.false_ne_true
        exact hmiss ⟨hfree, rfl, by simp [hundredHits, hv]⟩
      · exact hne rfl

/-- A scale that was just written counts as one that stands before. -/
theorem along_comma (h : Along (fun w j v _ => j = hundredsJoined w v) w t)
    (hruns : RunsWithin 3 (if free then 0 else 1) (w :: t.map (·.2))) :
    Along CommaJoined w (pass commaHits .comma free w t) := by
  induction t generalizing w free with
  | nil => trivial
  | cons p t ih =>
    obtain ⟨j, v⟩ := p
    obtain ⟨rfl, h⟩ := h
    rw [pass]
    split
    · next hhit =>
      obtain ⟨rfl, -, hhit⟩ := hhit
      have hscale : w.isScale := (Bool.and_eq_true_iff.1 hhit).1
      exact ⟨⟨.inr ⟨hscale, rfl⟩, fun _ hj => by cases hj⟩, ih h (hruns.tail_of_isScale hscale).2⟩
    · next hmiss =>
      refine ⟨⟨.inl rfl, fun hw hj hv p hp hpscale _ => ?_⟩, ih h (RunsWithin.tail hruns)⟩
      obtain ⟨i, hi⟩ := mem_head?_pass hp
      obtain ⟨t, rfl⟩ := List.head?_eq_some_iff.1 hi
      cases free with
      | true =>
        -- The blank would have been hit.
        have hi : i = .blank := h.1.trans (hundredsJoined_of_isScale hv)
        exact hmiss ⟨rfl, hj, by simp [commaHits, nextJoint, hw, hi]⟩
      | false =>
        -- With the scale that was just written there would be four in a row.
        have hv' := (hruns.tail_of_isScale hw).2.tail_of_isScale hv
        exact absurd (hv'.2.tail_of_isScale hpscale).1 (Nat.lt_irrefl 3)

theorem along_scale (h : Along CommaJoined w t)
    (hfree : free ∨ ∀ p ∈ t.head?, w.isScale → p.2.isScale → p.1 ≠ .blank) :
    Along (fun w j v _ => Joined w j v) w (pass scaleHits .and free w t) := by
  induction t generalizing w free with
  | nil => trivial
  | cons p t ih =>
    obtain ⟨j, v⟩ := p
    obtain ⟨⟨hjoint, hscales⟩, h⟩ := h
    rw [pass]
    split
    · next hhit =>
      obtain ⟨-, hj, hscale⟩ := hhit
      have hscale : w.isScale := hscale
      exact ⟨.of_and (isMultiplier_of_isScale hscale),
        ih h (.inr fun p hp hv => hscales hscale hj hv p hp)⟩
    · next hmiss =>
      refine ⟨?_, ih h (.inl rfl)⟩
      rcases hjoint with rfl | ⟨hscale, rfl⟩
      · refine .of_hundredsJoined fun hw hv hj => ?_
        rcases hfree with hfree | hnext
        · exact hmiss ⟨hfree, hj, hw⟩
        · exact hnext _ rfl hw hv hj
      · exact .of_comma hscale

/-! ## All rules -/

/-- Words one blank apart. -/
def blanks (ws : List NumberWord) : Tail :=
  ws.map (Joint.blank, ·)

/-- What comes behind the first word when the rule for tens was applied. -/
def americanTail (w : NumberWord) (ws : List NumberWord) : Tail :=
  pass hyphenHits .hyphen true w (blanks ws)

/-- What comes behind the first word when the rule for hundreds was applied as well. -/
def hundredsTail (w : NumberWord) (ws : List NumberWord) : Tail :=
  pass hundredHits .and true w (americanTail w ws)

/-- What comes behind the first word when the rule for commas was applied as well. -/
def commaTail (w : NumberWord) (ws : List NumberWord) : Tail :=
  pass commaHits .comma true w (hundredsTail w ws)

/-- What comes behind the first word when all four rules were applied. -/
def britishTail (w : NumberWord) (ws : List NumberWord) : Tail :=
  pass scaleHits .and true w (commaTail w ws)

theorem map_snd_blanks (ws : List NumberWord) : (blanks ws).map (·.2) = ws := by
  simp [blanks]

theorem along_blanks (w : NumberWord) (ws : List NumberWord) :
    Along (fun _ j _ _ => j = .blank) w (blanks ws) := by
  induction ws generalizing w with
  | nil => trivial
  | cons v ws ih => exact ⟨rfl, ih v⟩

/-- The words of a number that can be said. -/
structure Sayable (w : NumberWord) (ws : List NumberWord) : Prop where
  mem_all : ∀ v ∈ w :: ws, v ∈ NumberWord.all
  inOrder : InOrder (w :: ws)
  runs : RunsWithin 3 0 (w :: ws)
  length_le : ws.length ≤ 33

variable {ws : List NumberWord}

theorem Sayable.mem_tail (h : Sayable w ws) (ht : t.map (·.2) = ws) :
    ∀ p ∈ t, p.2 ∈ NumberWord.all := fun p hp =>
  h.mem_all p.2 (List.mem_cons_of_mem w (ht ▸ List.mem_map_of_mem hp))

theorem Sayable.tidy (h : Sayable w ws) (ht : t.map (·.2) = ws) : Tidy (render w t) := by
  refine tidy_render (h.mem_all w List.mem_cons_self) (h.mem_tail ht) ?_
  rw [← List.length_map (·.2), ht]
  exact h.length_le

theorem Sayable.rewritten {heads : List (List Char)} {close : List Char} {ending : Rewriter}
    {isHead : NumberWord → Bool} {hits : Hits}
    {fits : NumberWord → Joint → NumberWord → Option Joint → Prop} (new : Joint)
    (h : Sayable w ws) (ht : t.map (·.2) = ws) (hjoins : Joins heads close ending isHead hits fits)
    (hfits : Along (fun w j v next => fits w j v (next.map (·.1))) w t) :
    Rewritten (headedRewriter heads new.text close ending) (render w t)
      (render w (pass hits new true w t)) :=
  (rewritten_pass hjoins (h.mem_all w List.mem_cons_self) (h.mem_tail ht) hfits).1

theorem Sayable.along_follows (h : Sayable w ws) (ht : t.map (·.2) = ws) :
    Along (fun w _ v _ => Follows w v) w t :=
  along_iff_isChain.2 (ht ▸ h.inOrder.chain)

theorem map_snd_americanTail : (americanTail w ws).map (·.2) = ws :=
  map_snd_pass.trans (map_snd_blanks ws)

theorem map_snd_hundredsTail : (hundredsTail w ws).map (·.2) = ws :=
  map_snd_pass.trans map_snd_americanTail

theorem map_snd_commaTail : (commaTail w ws).map (·.2) = ws :=
  map_snd_pass.trans map_snd_hundredsTail

theorem map_snd_britishTail : (britishTail w ws).map (·.2) = ws :=
  map_snd_pass.trans map_snd_commaTail

theorem along_americanTail : Along (fun w j v _ => j = hyphenated w v) w (americanTail w ws) :=
  along_hyphen (along_blanks w ws) (.inl rfl)

theorem Sayable.along_hundredsTail (h : Sayable w ws) :
    Along (fun w j v _ => j = hundredsJoined w v) w (hundredsTail w ws) :=
  along_hundred (along_americanTail.and (h.along_follows map_snd_americanTail)) (.inl rfl)

theorem Sayable.along_commaTail (h : Sayable w ws) : Along CommaJoined w (commaTail w ws) :=
  along_comma h.along_hundredsTail (by rw [map_snd_hundredsTail]; exact h.runs)

/-- **British joints.** -/
theorem Sayable.along_britishTail (h : Sayable w ws) :
    Along (fun w j v _ => Joined w j v) w (britishTail w ws) :=
  along_scale h.along_commaTail (.inl rfl)

theorem Sayable.rewritten_hyphen (h : Sayable w ws) :
    Rewritten hyphenRewriter (render w (blanks ws)) (render w (americanTail w ws)) := by
  refine h.rewritten .hyphen (map_snd_blanks ws) joins_hyphen ?_
  refine ((h.along_follows (map_snd_blanks ws)).and (along_blanks w ws)).imp fun w j v _ hj => ?_
  exact ⟨hj.1, by rw [hj.2]; decide⟩

theorem Sayable.rewritten_hundred (h : Sayable w ws) :
    Rewritten hundredRewriter (render w (americanTail w ws)) (render w (hundredsTail w ws)) := by
  refine h.rewritten .and map_snd_americanTail joins_hundred ?_
  refine ((h.along_follows map_snd_americanTail).and along_americanTail).imp fun w j v _ hj => ?_
  refine ⟨hj.1, fun _ => ?_⟩
  rw [hj.2, hyphenated]
  split <;> decide

theorem Sayable.rewritten_comma (h : Sayable w ws) :
    Rewritten commaRewriter (render w (hundredsTail w ws)) (render w (commaTail w ws)) := by
  refine h.rewritten .comma map_snd_hundredsTail joins_comma ?_
  refine (((h.along_follows map_snd_hundredsTail).and h.along_hundredsTail).and
    h.along_hundredsTail.next).imp fun w j v next ⟨⟨hfollows, hj⟩, hnext⟩ hw => ⟨?_, fun hand => ?_⟩
  · rw [hj, hundredsJoined_of_isScale hw]
    decide
  · -- Only a hundred has `and` behind it, and it does not come behind a scale.
    obtain ⟨p, hp, hpand⟩ := Option.map_eq_some_iff.1 hand
    have hv : v = .hundred := by
      have hjoint := hnext p hp
      rw [hpand, hundredsJoined, hyphenated] at hjoint
      split_ifs at hjoint with hv
      exact hv
    exact absurd ((isScale_eq_false_of_isUnit (hfollows.2 hv)).symm.trans hw) Bool.false_ne_true

theorem Sayable.rewritten_scale (h : Sayable w ws) :
    Rewritten scaleRewriter (render w (commaTail w ws)) (render w (britishTail w ws)) := by
  refine h.rewritten .and map_snd_commaTail joins_scale ?_
  refine h.along_commaTail.imp fun w j v _ hj hw => ?_
  rcases hj.joint with rfl | ⟨-, rfl⟩
  · rw [hundredsJoined_of_isScale hw]
    decide
  · decide

/-- **American joints** are written by the first rule. -/
theorem Sayable.polished_american (h : Sayable w ws) :
    Polished [hyphenRewriter] (render w (blanks ws)) (render w (americanTail w ws)) :=
  .cons (h.tidy (map_snd_blanks ws)) h.rewritten_hyphen (.nil _)

/-- **British joints** are written by all four rules. -/
theorem Sayable.polished_british (h : Sayable w ws) :
    Polished [hyphenRewriter, hundredRewriter, commaRewriter, scaleRewriter]
      (render w (blanks ws)) (render w (britishTail w ws)) :=
  .cons (h.tidy (map_snd_blanks ws)) h.rewritten_hyphen <|
  .cons (h.tidy map_snd_americanTail) h.rewritten_hundred <|
  .cons (h.tidy map_snd_hundredsTail) h.rewritten_comma <|
  .cons (h.tidy map_snd_commaTail) h.rewritten_scale (.nil _)

/-! ## Numbers -/

/-- The words of a number with not more than three scales in a row can be said. -/
theorem sayable_of_spelled {n : Nat} (hn : n < 1000 * 1000000 ^ 3) (h : spelled n = w :: ws) :
    Sayable w ws where
  mem_all v hv := mem_all_of_mem_spelled (h ▸ hv)
  inOrder := h ▸ inOrder_spelled n
  runs := h ▸ (runsWithin_spelled 0 hn).1
  length_le := by
    have hlength := length_spelled_le hn
    rw [h, List.length_cons] at hlength
    omega

end Phrasebook.Speech.English
