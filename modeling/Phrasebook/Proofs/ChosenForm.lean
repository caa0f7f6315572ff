import Phrasebook.Format.Counted
import Phrasebook.Proofs.StoredText

/-!
# Choosing a form for a quantity

A text in plural forms is given out by a resolution, and as a cardinal. Each chooses the form in its
own order.

**A resolution** asks the rule that is set for the locale. Where there is none it takes the form for
zero, if the settings allow that, and else asks the language.

**A cardinal** takes the form for zero whatever the settings and rules are. Else it asks the rule of
the locale, or its language.

So the two can only differ for a quantity of zero and a text that has a form for it (`ZeroForm`),
and there only if a rule is set or the settings do not allow that form everywhere.

Main result: `plural_choices_agree`.
-/

namespace Phrasebook

/-- A quantity of zero, and the form that a text has for it. -/
structure ZeroForm (q : Quantity) (f : PluralForms) (zero : String) : Prop where
  isZero : q.isZero = true
  form : f.zero = some zero

theorem exists_zeroForm {q : Quantity} {f : PluralForms}
    (h : ¬ (q.isZero = false ∨ f.zero = none)) : ∃ zero, ZeroForm q f zero := by
  rw [not_or, Bool.not_eq_false] at h
  obtain ⟨hzero, hform⟩ := h
  obtain ⟨zero, hform⟩ := Option.ne_none_iff_exists'.1 hform
  exact ⟨zero, hzero, hform⟩

namespace Settings

variable {s : Settings} {l : Locale} {q : Quantity} {f : PluralForms} {zero : String}

/-- **The form is that of the category** that is reported with it. -/
theorem selectForm_text (s : Settings) (l : Locale) (q : Quantity) (f : PluralForms) :
    (s.selectForm l q f).2 = f.select (s.selectForm l q f).1 := by
  unfold selectForm
  split
  · rfl
  · split
    · next hform _ =>
      rw [PluralForms.zero] at hform
      rw [PluralForms.select, hform, Option.getD_some]
    · rfl

theorem selectForm_of_rule {rule : PluralRule} (h : s.pluralRules.get? l = some rule) :
    s.selectForm l q f = (rule q, f.select (rule q)) := by
  rw [selectForm, h]

/-- Where the form for zero may be taken it is, unless a rule is set. -/
theorem selectForm_of_zeroForm (hrule : s.pluralRules.get? l = none) (hzero : ZeroForm q f zero)
    (hallowed : s.polyfillZero = true) : s.selectForm l q f = (.zero, zero) := by
  simp [selectForm, hrule, hzero.form, hzero.isZero, hallowed]

/-- Otherwise the category is that of the quantity in the locale. -/
theorem selectForm_category (h : q.isZero = false ∨ f.zero = none ∨
    (s.pluralRules.get? l).isSome ∨ s.polyfillZero = false) :
    (s.selectForm l q f).1 = s.pluralCategory q l .cardinal := by
  unfold selectForm pluralCategory
  cases hrule : s.pluralRules.get? l with
  | some rule => rfl
  | none =>
    dsimp only
    split
    · next hform hboth =>
      rw [Bool.and_eq_true] at hboth
      simp [hform, hboth, hrule] at h
    · rfl

end Settings

namespace Translator

variable {t : Translator} {l : Locale} {ns : Namespace} {key : String} {q : Quantity}
  {f : PluralForms} {zero : String}

theorem cardinalForm_of_zeroForm (h : ZeroForm q f zero) (t : Translator) (l : Locale) :
    t.cardinalForm q l f = zero := by
  simp [cardinalForm, h.form, h.isZero]

theorem cardinalForm_of_other (h : q.isZero = false ∨ f.zero = none) (t : Translator)
    (l : Locale) : t.cardinalForm q l f = f.select (t.pluralCategory q l .cardinal) := by
  unfold cardinalForm
  split
  · next hform hzero => simp [hform, hzero] at h
  · rfl

/-- **A resolution gives out the chosen form**, filled in. -/
theorem resolve_plural (hl : l.language ≠ "") (hns : t.catalogue.get? l = some ns)
    (hfind : ns.find key = .ok (.plural f)) (q : Quantity) (values : Variables) :
    t.resolve key { locale := some l, values, quantity := some q } =
      (Interpolation.complete (some key) (t.settings.selectForm l q f).2 values (some q)).map
        fun text =>
          { text, requested := l, locale := some l,
            category := some (t.settings.selectForm l q f).1, origin := .catalogue } := by
  let r : Request := { locale := some l, values, quantity := some q }
  have hasked : t.settings.requestedLocale r = l := t.settings.requestedLocale_of_language rfl hl
  have hlookup : t.settings.lookup t.catalogue key r =
      .ok (l, some (t.settings.selectForm l q f).1, (t.settings.selectForm l q f).2) := by
    rw [Settings.lookup, hasked, Catalogue.serving?_of_get? hns]
    dsimp only
    rw [hfind]
    rfl
  rw [resolve, Settings.resolve_of_found hlookup, hasked]

/-- **A resolution and a cardinal choose the same form**, unless the quantity is zero, the text has
a form for it, and the settings would not take it: there the cardinal takes that form all the same,
and the resolution goes by the rule that is set or by the language. -/
theorem plural_choices_agree (hl : l.language ≠ "") (hns : t.catalogue.get? l = some ns)
    (hfind : ns.find key = .ok (.plural f)) (q : Quantity) :
    ∃ c, (∀ values, t.resolve key { locale := some l, values, quantity := some q } =
        (Interpolation.complete (some key) (f.select c) values (some q)).map fun text =>
          { text, requested := l, locale := some l, category := some c, origin := .catalogue }) ∧
      (q.isZero = false ∨ f.zero = none →
        t.cardinalForm q l f = f.select c ∧ c = t.pluralCategory q l .cardinal) ∧
      (t.settings.polyfillZero = true → t.settings.pluralRules.get? l = none →
        t.cardinalForm q l f = f.select c) ∧
      ∀ zero, ZeroForm q f zero →
        (∀ rule, t.settings.pluralRules.get? l = some rule →
          t.cardinalForm q l f = zero ∧ c = rule q) ∧
        (t.settings.polyfillZero = false → t.settings.pluralRules.get? l = none →
          t.cardinalForm q l f = zero ∧
            c = Plural.plainCategory t.settings.languageRules l.tag q .cardinal) := by
  have hform := t.settings.selectForm_text l q f
  have hcategory (hother : q.isZero = false ∨ f.zero = none) :
      (t.settings.selectForm l q f).1 = t.pluralCategory q l .cardinal :=
    Settings.selectForm_category (hother.imp_right .inl)
  refine ⟨(t.settings.selectForm l q f).1, fun values => ?_, fun hother => ?_,
    fun hallowed hrule => ?_, fun zero hzero => ⟨fun rule hrule => ?_, fun hoff hrule => ?_⟩⟩
  · rw [resolve_plural hl hns hfind, hform]
  · rw [hcategory hother]
    exact ⟨cardinalForm_of_other hother t l, rfl⟩
  -- Both take the form for zero where it counts, and else both go by the category.
  · by_cases hother : q.isZero = false ∨ f.zero = none
    · rw [hcategory hother, cardinalForm_of_other hother]
    · obtain ⟨zero, hzero⟩ := exists_zeroForm hother
      rw [cardinalForm_of_zeroForm hzero, ← hform,
        Settings.selectForm_of_zeroForm hrule hzero hallowed]
  · rw [Settings.selectForm_of_rule hrule]
    exact ⟨cardinalForm_of_zeroForm hzero t l, rfl⟩
  · rw [Settings.selectForm_category (.inr (.inr (.inr hoff))), Settings.pluralCategory, hrule]
    exact ⟨cardinalForm_of_zeroForm hzero t l, rfl⟩

/-- A rule that has no form for zero of its own: the cardinal says that there are none, and the
resolution counts them. -/
theorem plural_choices_agree_files :
    let english : Locale := { language := "en" }
    let f : PluralForms :=
      { other := "files", forms := [(.zero, "no files"), (.many, "\x7b\x7bquantity\x7d\x7d files")] }
    let t : Translator :=
      { settings := { pluralRules := [(english, fun _ => .many)] }
        catalogue := [(english, [("files", .plural f)])] }
    let r : Request := { locale := some english, quantity := some (.integer 0) }
    t.cardinalForm (.integer 0) english f = "no files" ∧
      ∃ x, t.resolve "files" r = .ok x ∧ x.category = some .many ∧ x.text = "0 files" := by
  intro english f t r
  have hzero : ZeroForm (.integer 0) f "no files" := ⟨rfl, rfl⟩
  have hns : t.catalogue.get? english = some [("files", .plural f)] := rfl
  have hfind : Namespace.find [("files", .plural f)] "files" = .ok (.plural f) := rfl
  obtain ⟨c, hresolve, -, -, hrest⟩ :=
    plural_choices_agree (by decide) hns hfind (.integer 0)
  obtain ⟨hcardinal, hcategory⟩ := (hrest _ hzero).1 _ rfl
  have hfilled : Interpolation.complete (some "files") (f.select .many) [] (some (.integer 0)) =
      .ok "0 files" := by
    decide
  have hanswer := hresolve []
  rw [hcategory, hfilled] at hanswer
  exact ⟨hcardinal, _, hanswer, rfl, rfl⟩

end Translator

end Phrasebook
