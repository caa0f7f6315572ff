import Phrasebook.Translator
import Phrasebook.Proofs.Interpolation

/-!
# The outcomes of a resolution

A resolution goes through a look-up that does not depend on how strict the settings are
(`lookup_strictly`, `lookup_leniently`), and its outcome follows from what the look-up gives.

**Found.** The text is filled in and checked. Strict and lenient settings do the same.

**Lacking.** Strict settings name what is lacking in an error; lenient ones let the handler or the
key stand in (`standIn`).

**Two runs** (`Compared`). The pairs of outcomes that strict and lenient settings can have for one
question, four in number. What the two have in common is read off the pairs.

Main results: `given_out_settled`, no placeholder is ever given out, and `strict_lenient_agree`,
strict and lenient settings differ in nothing but what a lack gives.
-/

namespace Phrasebook

/-! ## The locale that serves -/

/-- Neither a locale nor its base is in the catalogue. -/
def Catalogue.Unserved (c : Catalogue) (requested : Locale) : Prop :=
  c.get? requested = none ∧ ∀ base, requested.base? = some base → c.get? base = none

theorem Catalogue.serving?_eq_none_iff {c : Catalogue} {requested : Locale} :
    c.serving? requested = none ↔ c.Unserved requested := by
  unfold serving? Unserved
  cases c.get? requested with
  | some ns => simp
  | none =>
    cases requested.base? with
    | none => simp
    | some base => cases hb : c.get? base <;> simp [hb]

namespace Settings

/-- The settings with a missing text as an error. -/
def strictly (s : Settings) : Settings := { s with strict := true }

/-- The settings with something else in the place of a missing text. -/
def leniently (s : Settings) : Settings := { s with strict := false }

/-- The text in the place of a missing one: the handler's, else the key. -/
def standInText (s : Settings) (key : String) (failed : Locale) (r : Request) : String :=
  match s.onMissing with
  | some handler => handler key failed r
  | none => key

/-- What lenient settings give where nothing is found. -/
def standIn (s : Settings) (key : String) (r : Request) (failed : Locale)
    (served : Option Locale) : Resolution where
  text := s.standInText key failed r
  requested := s.requestedLocale r
  locale := served
  origin := if s.onMissing.isSome then .handler else .key

variable {s : Settings} {c : Catalogue} {key : String} {r : Request}

theorem standIn_origin (failed : Locale) (served : Option Locale) :
    (s.standIn key r failed served).origin = .handler ∨
      (s.standIn key r failed served).origin = .key := by
  simp only [standIn]
  split
  · exact .inl rfl
  · exact .inr rfl

@[simp] theorem standIn_origin_ne (failed : Locale) (served : Option Locale) :
    (s.standIn key r failed served).origin ≠ .catalogue := by
  intro he
  rcases @standIn_origin s key r failed served with h | h <;> rw [h] at he <;> cases he

/-! ## From the look-up to the outcome -/

@[simp] theorem lookup_strictly : s.strictly.lookup c key r = s.lookup c key r := rfl

@[simp] theorem lookup_leniently : s.leniently.lookup c key r = s.lookup c key r := rfl

/-- **The locale is lacking** exactly when neither it nor its base is there. -/
theorem lookup_eq_lack_locale_iff :
    s.lookup c key r = .error .locale ↔ c.Unserved (s.requestedLocale r) := by
  rw [← Catalogue.serving?_eq_none_iff, lookup]
  cases c.serving? (s.requestedLocale r) with
  | none => simp
  | some found =>
    obtain ⟨l, ns⟩ := found
    dsimp only
    cases ns.find key with
    | error near => simp
    | ok entry =>
      dsimp only
      cases s.selectText l r.quantity entry <;> simp

theorem resolve_of_lack {lack : Lack} (h : s.lookup c key r = .error lack) :
    s.resolve c key r = s.onLack key r lack := by
  rw [resolve, h]

theorem resolve_of_found {l : Locale} {category : Option Category} {text : String}
    (h : s.lookup c key r = .ok (l, category, text)) :
    s.resolve c key r =
      (Interpolation.complete (some key) text r.values r.quantity).map fun filled =>
        { text := filled, requested := s.requestedLocale r, locale := some l, category,
          origin := .catalogue } := by
  rw [resolve, h]
  dsimp only
  cases Interpolation.complete (some key) text r.values r.quantity <;> rfl

@[simp] theorem strictly_onLack_locale :
    s.strictly.onLack key r .locale = .error (.invalidLocale (s.requestedLocale r)) := rfl

@[simp] theorem strictly_onLack_entry (l : Locale) (near : List String) :
    s.strictly.onLack key r (.entry l near) = .error (.missingText key l near) := rfl

@[simp] theorem leniently_onLack_locale :
    s.leniently.onLack key r .locale = .ok (s.standIn key r (s.requestedLocale r) none) := by
  have hhandler : s.leniently.onMissing = s.onMissing := rfl
  unfold onLack standIn standInText
  rw [hhandler]
  cases s.onMissing <;> rfl

@[simp] theorem leniently_onLack_entry (l : Locale) (near : List String) :
    s.leniently.onLack key r (.entry l near) = .ok (s.standIn key r l (some l)) := by
  have hhandler : s.leniently.onMissing = s.onMissing := rfl
  unfold onLack standIn standInText
  rw [hhandler]
  cases s.onMissing <;> rfl

theorem eq_strictly_or_leniently (s : Settings) : s = s.strictly ∨ s = s.leniently := by
  obtain ⟨defaultLocale, locale, strict, polyfillZero, onMissing, pluralRules, languageRules⟩ := s
  cases strict with
  | true => exact .inl rfl
  | false => exact .inr rfl

/-- What a lack gives never comes from the catalogue. -/
theorem origin_of_onLack {lack : Lack} {x : Resolution} (h : s.onLack key r lack = .ok x) :
    x.origin ≠ .catalogue := by
  rcases s.eq_strictly_or_leniently with hs | hs <;> rw [hs] at h
  · cases lack <;> simp at h
  · cases lack <;> simp only [leniently_onLack_locale, leniently_onLack_entry, Except.ok.injEq] at h
      <;> simp [← h]

/-- A text from the catalogue has passed the completeness check. -/
theorem complete_of_resolve {x : Resolution} (h : s.resolve c key r = .ok x)
    (ho : x.origin = .catalogue) :
    ∃ text, Interpolation.complete (some key) text r.values r.quantity = .ok x.text := by
  cases hl : s.lookup c key r with
  | ok found =>
    obtain ⟨l, category, text⟩ := found
    rw [resolve_of_found hl] at h
    cases hc : Interpolation.complete (some key) text r.values r.quantity with
    | error e => rw [hc] at h; cases h
    | ok filled => rw [hc] at h; cases h; exact ⟨text, hc⟩
  | error lack =>
    rw [resolve_of_lack hl] at h
    exact absurd ho (origin_of_onLack h)

/-! ## Strict and lenient runs of one question -/

/-- The outcomes that strict settings and lenient settings have for one question. -/
inductive Compared (s : Settings) (c : Catalogue) (key : String) (r : Request) :
    Except LookupError Resolution → Except LookupError Resolution → Prop
  | found (x : Resolution) (l : Locale) : ¬ c.Unserved (s.requestedLocale r) →
      x.origin = .catalogue → x.locale = some l → Compared s c key r (.ok x) (.ok x)
  | unfilled (left : List String) : ¬ c.Unserved (s.requestedLocale r) →
      Compared s c key r (.error (.missingVariable (some key) left))
        (.error (.missingVariable (some key) left))
  | noLocale : c.Unserved (s.requestedLocale r) →
      Compared s c key r (.error (.invalidLocale (s.requestedLocale r)))
        (.ok (s.standIn key r (s.requestedLocale r) none))
  | noEntry (l : Locale) (near : List String) : ¬ c.Unserved (s.requestedLocale r) →
      Compared s c key r (.error (.missingText key l near)) (.ok (s.standIn key r l (some l)))

theorem compared (s : Settings) (c : Catalogue) (key : String) (r : Request) :
    Compared s c key r (s.strictly.resolve c key r) (s.leniently.resolve c key r) := by
  -- Both go through the same look-up, so one case split serves both runs.
  cases hl : s.lookup c key r with
  | error lack =>
    rw [resolve_of_lack (lookup_strictly.trans hl), resolve_of_lack (lookup_leniently.trans hl)]
    cases lack with
    | locale =>
      simp only [strictly_onLack_locale, leniently_onLack_locale]
      exact .noLocale (lookup_eq_lack_locale_iff.1 hl)
    | entry l near =>
      simp only [strictly_onLack_entry, leniently_onLack_entry]
      refine .noEntry l near fun hu => ?_
      rw [lookup_eq_lack_locale_iff.2 hu] at hl
      cases hl
  | ok found =>
    obtain ⟨l, category, text⟩ := found
    have hserved : ¬ c.Unserved (s.requestedLocale r) := fun hu => by
      rw [lookup_eq_lack_locale_iff.2 hu] at hl
      cases hl
    rw [resolve_of_found (lookup_strictly.trans hl), resolve_of_found (lookup_leniently.trans hl)]
    cases hc : Interpolation.complete (some key) text r.values r.quantity with
    | ok filled => exact .found _ l hserved rfl rfl
    | error e =>
      obtain ⟨rfl, -⟩ := Interpolation.complete_eq_error_iff.1 hc
      exact .unfilled _ hserved

namespace Compared

variable {strict lenient : Except LookupError Resolution}

theorem ok_iff (h : Compared s c key r strict lenient) (x : Resolution) :
    strict = .ok x ↔ lenient = .ok x ∧ x.origin = .catalogue := by
  cases h with
  | found y l _ ho _ =>
    rw [Except.ok.injEq, iff_self_and]
    rintro rfl
    exact ho
  | unfilled left _ => simp
  | noLocale _ | noEntry l near _ =>
    simp only [reduceCtorEq, Except.ok.injEq, false_iff, not_and]
    rintro rfl
    exact standIn_origin_ne _ _

theorem missingVariable_iff (h : Compared s c key r strict lenient) (k : Option String)
    (left : List String) :
    strict = .error (.missingVariable k left) ↔ lenient = .error (.missingVariable k left) := by
  cases h <;> simp

theorem lenient_error (h : Compared s c key r strict lenient) (e : LookupError)
    (he : lenient = .error e) : ∃ k left, e = .missingVariable k left := by
  cases h with
  | unfilled left _ =>
    cases he
    exact ⟨some key, left, rfl⟩
  | found | noLocale | noEntry => cases he

theorem invalidLocale_iff (h : Compared s c key r strict lenient) (l : Locale) :
    strict = .error (.invalidLocale l) ↔
      l = s.requestedLocale r ∧ c.Unserved (s.requestedLocale r) := by
  cases h with
  | noLocale hu => simp [hu, eq_comm]
  | found y l' hu | unfilled left hu | noEntry l' near hu => simp [hu]

theorem unserved_iff (h : Compared s c key r strict lenient) :
    c.Unserved (s.requestedLocale r) ↔ ∃ x, lenient = .ok x ∧ x.locale = none := by
  cases h with
  | noLocale hu =>
    exact ⟨fun _ => ⟨_, rfl, rfl⟩, fun _ => hu⟩
  | found y l hu _ hl => simp [hu, hl]
  | unfilled left hu => simp [hu]
  | noEntry l near hu => simp [hu, standIn]

theorem missingText_iff (h : Compared s c key r strict lenient) (l : Locale) :
    (∃ k near, strict = .error (.missingText k l near)) ↔
      ∃ x, lenient = .ok x ∧ (x.origin = .handler ∨ x.origin = .key) ∧ x.locale = some l := by
  cases h with
  | found y l' hu ho hl => simp [ho]
  | unfilled left hu => simp
  | noLocale hu => simp [standIn]
  | noEntry l' near hu =>
    constructor
    · rintro ⟨k, near', he⟩
      cases he
      exact ⟨_, rfl, standIn_origin _ _, rfl⟩
    · rintro ⟨x, hx, -, hl⟩
      cases hx
      cases hl
      exact ⟨key, near, rfl⟩

theorem lenient_text_of_noLocale (h : Compared s c key r strict lenient) (x : Resolution)
    (hx : lenient = .ok x) (hl : x.locale = none) :
    x.text = s.standInText key (s.requestedLocale r) r := by
  cases h with
  | noLocale hu =>
    cases hx
    rfl
  | found y l hu _ hy =>
    cases hx
    rw [hy] at hl
    cases hl
  | unfilled left hu => cases hx
  | noEntry l near hu =>
    cases hx
    cases hl

theorem lenient_text_of_noEntry (h : Compared s c key r strict lenient) (x : Resolution)
    (l : Locale) (hx : lenient = .ok x) (ho : x.origin = .handler ∨ x.origin = .key)
    (hl : x.locale = some l) : x.text = s.standInText key l r := by
  cases h with
  | noEntry l' near hu =>
    cases hx
    cases hl
    rfl
  | found y l' hu hy _ =>
    cases hx
    simp [hy] at ho
  | unfilled left hu => cases hx
  | noLocale hu =>
    cases hx
    cases hl

theorem strict_origin (h : Compared s c key r strict lenient) (x : Resolution)
    (hx : strict = .ok x) : x.origin ≠ .handler ∧ x.origin ≠ .key := by
  have ho := ((h.ok_iff x).1 hx).2
  simp [ho]

end Compared

/-- **Strict and lenient settings differ in nothing but what a lack gives.** -/
theorem strict_lenient_agree (s : Settings) (c : Catalogue) (key : String) (r : Request) :
    -- Both give the same texts from the catalogue.
    (∀ x, s.strictly.resolve c key r = .ok x ↔
      s.leniently.resolve c key r = .ok x ∧ x.origin = .catalogue) ∧
    -- Both refuse the same placeholders, and lenient settings refuse nothing else.
    (∀ k left, s.strictly.resolve c key r = .error (.missingVariable k left) ↔
      s.leniently.resolve c key r = .error (.missingVariable k left)) ∧
    (∀ e, s.leniently.resolve c key r = .error e → ∃ k left, e = .missingVariable k left) ∧
    -- The locale is lacking.
    (∀ l, s.strictly.resolve c key r = .error (.invalidLocale l) ↔
      l = s.requestedLocale r ∧ c.Unserved (s.requestedLocale r)) ∧
    (c.Unserved (s.requestedLocale r) ↔
      ∃ x, s.leniently.resolve c key r = .ok x ∧ x.locale = none) ∧
    (∀ x, s.leniently.resolve c key r = .ok x → x.locale = none →
      x.text = s.standInText key (s.requestedLocale r) r) ∧
    -- The entry is lacking in the locale that serves.
    (∀ l, (∃ k near, s.strictly.resolve c key r = .error (.missingText k l near)) ↔
      ∃ x, s.leniently.resolve c key r = .ok x ∧ (x.origin = .handler ∨ x.origin = .key) ∧
        x.locale = some l) ∧
    (∀ x l, s.leniently.resolve c key r = .ok x → x.origin = .handler ∨ x.origin = .key →
      x.locale = some l → x.text = s.standInText key l r) ∧
    -- Nothing ever stands in under strict settings.
    (∀ x, s.strictly.resolve c key r = .ok x → x.origin ≠ .handler ∧ x.origin ≠ .key) := by
  have h := compared s c key r
  exact ⟨h.ok_iff, h.missingVariable_iff, h.lenient_error, h.invalidLocale_iff, h.unserved_iff,
    h.lenient_text_of_noLocale, h.missingText_iff, h.lenient_text_of_noEntry, h.strict_origin⟩

end Settings

/-! ## No placeholder is given out -/

/-- **No placeholder is given out.** Whatever text, variables and quantity are put together, by
themselves or for a key, a text that comes of it is settled. -/
theorem given_out_settled :
    (∀ (text : String) (vars : Variables) (q : Option Quantity) (s : String),
      Interpolation.interpolate text vars q = .ok s → Interpolation.Settled s) ∧
    ∀ (t : Translator) (key : String) (r : Request) (x : Resolution),
      t.resolve key r = .ok x → x.origin = .catalogue → Interpolation.Settled x.text := by
  refine ⟨fun text vars q s h => Interpolation.settled_of_complete h, fun t key r x h ho => ?_⟩
  obtain ⟨text, hc⟩ := Settings.complete_of_resolve h ho
  exact Interpolation.settled_of_complete hc

/-- A value between braces of the text, one pair short of a placeholder. -/
theorem given_out_settled_braces :
    (Interpolation.interpolate "{{{a}}}" [("a", .string "b")] none = .ok "{b}" ∧
      Interpolation.Settled "{b}") ∧
    ∃ x, Translator.resolve { catalogue := [({ language := "en" }, [("k", .text "{{{a}}}")])] }
        "k" { locale := some { language := "en", region := some "GB" },
              values := [("a", .string "b")] } = .ok x ∧
      x.origin = .catalogue ∧ x.text = "{b}" ∧ Interpolation.Settled x.text := by
  have h : Interpolation.interpolate "{{{a}}}" [("a", .string "b")] none = .ok "{b}" := rfl
  have h' : Translator.resolve
      { catalogue := [({ language := "en" }, [("k", .text "{{{a}}}")])] } "k"
      { locale := some { language := "en", region := some "GB" },
        values := [("a", .string "b")] } =
      .ok { text := "{b}", requested := { language := "en", region := some "GB" },
            locale := some { language := "en" }, origin := .catalogue } := rfl
  exact ⟨⟨h, given_out_settled.1 _ _ _ _ h⟩, _, h', rfl, rfl, given_out_settled.2 _ _ _ _ h' rfl⟩

end Phrasebook
