import Phrasebook.Plural.Forms

/-!
# Forms as they were given

**One place for each form** (`PluralForms.Proper`). The form for `other` stands beside the
dictionary and never in it, and the dictionary is in the order of the categories. Forms begin so,
and every change keeps it (`Proper.insert`).

**Listed and found.** Proper forms list each category that they have a form for, once and in order
(`Proper.ordered_toList`, `Proper.mem_toList_iff`), and what is found under the categories settles
them (`Proper.ext`).

**What was given** (`Made`). Forms begin with a text for `other` or with a dictionary, and are then
given one text after another. For each category the text that was given last is the one that counts
(`LastGiven`).

Main result: `made_exact`.
-/

namespace Phrasebook.PluralForms

variable {f g : PluralForms} {d : Dict Category String} {c c' : Category} {text text' : String}

/-! ## One place for each form -/

/-- The form for `other` does not stand among those before it, and they are in order. -/
structure Proper (f : PluralForms) : Prop where
  ordered : f.forms.Ordered
  other_notMem : .other ∉ f.forms.keys

theorem proper_new (other : String) : Proper { other } :=
  ⟨.nil, List.not_mem_nil⟩

theorem Proper.insert (h : f.Proper) (text : String) (c : Category) : (f.insert text c).Proper := by
  by_cases hc : c = .other
  · subst hc
    exact ⟨h.ordered, h.other_notMem⟩
  · rw [insert_of_ne hc]
    refine ⟨Dict.ordered_insert h.ordered c text, ?_⟩
    rw [← Dict.get?_eq_none_iff, Dict.get?_insert_of_ne hc, Dict.get?_eq_none_iff]
    exact h.other_notMem

theorem proper_of_ofDict? (hd : d.Ordered) (h : ofDict? d = some f) : f.Proper := by
  obtain ⟨other, -, rfl⟩ := Option.map_eq_some_iff.1 h
  refine ⟨Dict.ordered_erase hd .other, ?_⟩
  simp [← Dict.get?_eq_none_iff]

theorem get?_of_ofDict? (h : ofDict? d = some f) (c : Category) : f.get? c = d.get? c := by
  obtain ⟨other, hother, rfl⟩ := Option.map_eq_some_iff.1 h
  by_cases hc : c = .other
  · rw [hc, hother]
    rfl
  · rw [get?_of_ne hc]
    exact Dict.get?_erase_of_ne (Ne.symm hc) d

/-! ## Listed and found -/

theorem compare_other (h : c ≠ .other) : compare c .other = .lt := by
  cases c <;> first | rfl | exact absurd rfl h

@[simp] theorem getLast?_toList (f : PluralForms) : f.toList.getLast? = some (.other, f.other) :=
  List.getLast?_concat

namespace Proper

theorem ordered_toList (h : f.Proper) : Dict.Ordered f.toList := by
  refine List.pairwise_append.2 ⟨h.ordered, List.pairwise_singleton _ _, fun e he last hlast => ?_⟩
  rw [List.mem_singleton.1 hlast]
  refine compare_other fun hc => h.other_notMem ?_
  rw [← hc]
  exact List.mem_map_of_mem he

theorem get?_toList (h : f.Proper) (c : Category) : Dict.get? f.toList c = f.get? c := by
  rw [toList, Dict.get?_append]
  by_cases hc : c = .other
  · subst hc
    rw [(Dict.get?_eq_none_iff _ _).2 h.other_notMem]
    rfl
  · have hlast : Dict.get? [(Category.other, f.other)] c = none := by simp [Dict.get?, Ne.symm hc]
    rw [hlast, Option.or_none, get?_of_ne hc]

/-- **The list is of the forms that are found.** -/
theorem mem_toList_iff (h : f.Proper) : (c, text) ∈ f.toList ↔ f.get? c = some text := by
  rw [Dict.mem_iff_get? h.ordered_toList.nodup_keys, h.get?_toList]

/-- **What is found settles the forms.** -/
theorem ext (hf : f.Proper) (hg : g.Proper) (h : ∀ c, f.get? c = g.get? c) : f = g := by
  have hlists : f.toList = g.toList := by
    refine hf.ordered_toList.ext hg.ordered_toList fun c => ?_
    rw [hf.get?_toList, hg.get?_toList, h]
  obtain ⟨other, forms⟩ := f
  obtain ⟨hforms, hlast⟩ := List.append_inj' hlists rfl
  cases hforms
  cases hlast
  rfl

/-- **Forms are made again** from their list. -/
theorem ofDict?_toList (h : f.Proper) : ofDict? (Dict.ofList f.toList) = some f := by
  have hother : Dict.get? f.toList .other = some f.other := h.get?_toList .other
  have herase : Dict.erase f.toList .other = f.forms := by
    -- Without the form for `other` at its end the list is the dictionary.
    have hforms : Dict.erase f.forms .other = f.forms :=
      Dict.erase_eq_self ((Dict.get?_eq_none_iff _ _).2 h.other_notMem)
    rw [toList, Dict.erase, List.filter_append]
    exact (List.append_nil _).trans hforms
  rw [h.ordered_toList.ofList_eq_self, ofDict?, hother, Option.map_some, herase]

end Proper

/-- **Forms list the dictionary** that they were made from. -/
theorem toList_of_ofDict? (hd : d.Ordered) (h : ofDict? d = some f) : f.toList = d := by
  have hf := proper_of_ofDict? hd h
  refine hf.ordered_toList.ext hd fun c => ?_
  rw [hf.get?_toList, get?_of_ofDict? h]

/-! ## What was given -/

/-- Forms that begin with a text for `other` or with a dictionary and are then given further texts,
with all that was given, the latest at the end. -/
inductive Made : List (Category × String) → PluralForms → Prop
  | new (other : String) : Made [(.other, other)] { other }
  | ofDict {d : Dict Category String} {f : PluralForms} :
      d.Ordered → ofDict? d = some f → Made d f
  | insert {given : List (Category × String)} {f : PluralForms} (c : Category) (text : String) :
      Made given f → Made (given ++ [(c, text)]) (f.insert text c)

/-- A text was given for a category, and no other text after it. -/
def LastGiven (given : List (Category × String)) (c : Category) (text : String) : Prop :=
  ∃ before after, given = before ++ (c, text) :: after ∧ ∀ e ∈ after, e.1 ≠ c

variable {given : List (Category × String)}

theorem lastGiven_append_single : LastGiven (given ++ [(c', text')]) c text ↔
    c' = c ∧ text' = text ∨ c' ≠ c ∧ LastGiven given c text := by
  constructor
  · rintro ⟨before, after, hsplit, hafter⟩
    rcases List.eq_nil_or_concat after with rfl | ⟨after, e, rfl⟩
    · obtain ⟨-, hlast⟩ := List.append_inj' hsplit rfl
      cases hlast
      exact .inl ⟨rfl, rfl⟩
    · rw [List.concat_eq_append] at hsplit hafter
      rw [← List.cons_append, ← List.append_assoc] at hsplit
      obtain ⟨hgiven, hlast⟩ := List.append_inj' hsplit rfl
      cases hlast
      obtain ⟨hafter, hne⟩ := List.forall_mem_append.1 hafter
      exact .inr ⟨hne _ (List.mem_singleton_self _), before, after, hgiven, hafter⟩
  · rintro (⟨rfl, rfl⟩ | ⟨hne, before, after, rfl, hafter⟩)
    · exact ⟨given, [], rfl, fun e he => absurd he List.not_mem_nil⟩
    · refine ⟨before, after ++ [(c', text')], by simp, fun e he => ?_⟩
      rcases List.mem_append.1 he with he | he
      · exact hafter e he
      · rw [List.mem_singleton.1 he]
        exact hne

@[simp] theorem not_lastGiven_nil : ¬ LastGiven [] c text := by
  rintro ⟨before, after, hsplit, -⟩
  simp at hsplit

/-- In a dictionary each text is the last one for its category. -/
theorem lastGiven_iff_get? (hd : d.keys.Nodup) : LastGiven d c text ↔ d.get? c = some text := by
  rw [← Dict.mem_iff_get? hd]
  constructor
  · rintro ⟨before, after, rfl, -⟩
    simp
  · intro hmem
    obtain ⟨before, after, rfl⟩ := List.append_of_mem hmem
    refine ⟨before, after, rfl, fun e he hc => ?_⟩
    rw [Dict.keys, List.map_append, List.map_cons, List.nodup_append] at hd
    -- The name does not stand again behind its only place.
    have hfresh : c ∉ after.map Prod.fst := (List.nodup_cons.1 hd.2.1).1
    rw [← hc] at hfresh
    exact hfresh (List.mem_map_of_mem he)

namespace Made

theorem proper (h : Made given f) : f.Proper := by
  induction h with
  | new other => exact proper_new other
  | ofDict hd h => exact proper_of_ofDict? hd h
  | insert c text _ ih => exact ih.insert text c

/-- **The last text counts.** -/
theorem get?_eq_some_iff (h : Made given f) : f.get? c = some text ↔ LastGiven given c text := by
  induction h with
  | new other =>
    rw [← List.nil_append [(Category.other, other)], lastGiven_append_single]
    cases c <;> simp [get?, Dict.get?, not_lastGiven_nil]
  | ofDict hd h => rw [get?_of_ofDict? h, lastGiven_iff_get? hd.nodup_keys]
  | insert c' text' _ ih =>
    rw [get?_insert, lastGiven_append_single, ← ih]
    by_cases hc : c' = c <;> simp [hc]

theorem get?_eq_none_iff (h : Made given f) : f.get? c = none ↔ ∀ e ∈ given, e.1 ≠ c := by
  induction h with
  | new other => cases c <;> simp [get?, Dict.get?]
  | ofDict hd h =>
    rw [get?_of_ofDict? h, Dict.get?_eq_none_iff]
    simp only [Dict.keys, List.mem_map, not_exists, not_and, ne_eq]
  | insert c' text' _ ih =>
    rw [get?_insert, List.forall_mem_append, List.forall_mem_singleton, ← ih]
    by_cases hc : c' = c <;> simp [hc]

end Made

/-- **Forms have one representation.** However they were made and changed, the form for `other` is
not in the dictionary, the text that was given last for a category is the one that is found, and
there is always one for `other`. The list has each category that is found once and in order, `other`
at the end, and the forms are made again from it. Forms are the same if the same is found under all
categories, and `other` stands in for exactly the categories that nothing was given for. -/
theorem made_exact (h : Made given f) :
    Category.other ∉ f.forms.keys ∧
    (∀ c text, f.get? c = some text ↔ LastGiven given c text) ∧
    (∃ text, LastGiven given .other text) ∧
    (Dict.Ordered f.toList ∧ f.toList.getLast? = some (.other, f.other) ∧
      ∀ c text, (c, text) ∈ f.toList ↔ f.get? c = some text) ∧
    ofDict? (Dict.ofList f.toList) = some f ∧
    (∀ given' g, Made given' g → (f = g ↔ ∀ c, f.get? c = g.get? c)) ∧
    ∀ c, (∀ text, LastGiven given c text → f.select c = text) ∧
      (f.get? c = none ↔ ∀ e ∈ given, e.1 ≠ c) ∧
      ((∀ e ∈ given, e.1 ≠ c) → f.select c = f.other) := by
  have hf := h.proper
  refine ⟨hf.other_notMem, fun c text => h.get?_eq_some_iff, ⟨f.other, h.get?_eq_some_iff.1 rfl⟩,
    ⟨hf.ordered_toList, f.getLast?_toList, fun c text => hf.mem_toList_iff⟩, hf.ofDict?_toList,
    fun given' g hg => ⟨fun hfg c => by rw [hfg], hf.ext hg.proper⟩,
    fun c => ⟨fun text hlast => ?_, h.get?_eq_none_iff, fun hnever => ?_⟩⟩
  · rw [select, h.get?_eq_some_iff.2 hlast, Option.getD_some]
  · rw [select, h.get?_eq_none_iff.2 hnever, Option.getD_none]

/-- Forms from a dictionary that are given another text for `other` and one for zero. -/
theorem made_exact_apples :
    let d : Dict Category String := [(.one, "apple"), (.other, "apples")]
    ∃ f, ofDict? d = some f ∧
      Made (d ++ [(.other, "fruit")] ++ [(.zero, "no fruit")])
        ((f.insert "fruit" .other).insert "no fruit" .zero) ∧
      ((f.insert "fruit" .other).insert "no fruit" .zero).toList =
        [(.zero, "no fruit"), (.one, "apple"), (.other, "fruit")] ∧
      ((f.insert "fruit" .other).insert "no fruit" .zero).select .few = "fruit" ∧
      ofDict? (Dict.ofList [(.zero, "no fruit"), (.one, "apple"), (.other, "fruit")]) =
        some ((f.insert "fruit" .other).insert "no fruit" .zero) := by
  intro d
  refine ⟨{ other := "apples", forms := [(.one, "apple")] }, rfl, ?_⟩
  have hmade := ((Made.ofDict (d := d) (by decide) rfl).insert .other "fruit").insert .zero "no fruit"
  obtain ⟨-, -, -, -, hagain, -, hselect⟩ := made_exact hmade
  exact ⟨hmade, rfl, (hselect .few).2.2 (by decide), hagain⟩

end Phrasebook.PluralForms
