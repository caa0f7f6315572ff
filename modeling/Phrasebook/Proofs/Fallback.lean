import Phrasebook.Proofs.StoredText

/-!
# Falling back to the base of a locale

A locale that is not in the catalogue is served by its base.

**All or nothing.** Once a namespace is chosen nothing else of the catalogue is looked at
(`lookup_congr`): plural rules, suggestions and errors go by the locale that serves, and what a
regional namespace lacks is not taken from its base.

**Two runs** (`Alike`). Where the same namespace serves two requests, their outcomes differ in
nothing but the locale that was asked for, and in what a handler makes of its arguments.

Main result: `fallback_transparent`.
-/

namespace Phrasebook

namespace Locale

variable {l base : Locale}

theorem language_of_base? (h : l.base? = some base) : base.language = l.language := by
  obtain ⟨_, -, rfl⟩ := Option.map_eq_some_iff.1 h
  rfl

/-- A base has no base of its own. -/
theorem base?_of_base? (h : l.base? = some base) : base.base? = none := by
  obtain ⟨_, -, rfl⟩ := Option.map_eq_some_iff.1 h
  rfl

end Locale

/-- **Its base serves** for a locale that is not there. -/
theorem Catalogue.serving?_eq_serving?_base {c : Catalogue} {l base : Locale}
    (hbase : l.base? = some base) (hl : c.get? l = none) : c.serving? l = c.serving? base := by
  rw [serving?, serving?, hl, hbase]
  cases hget : c.get? base with
  | some ns => simp [hget]
  | none => simp [hget, Locale.base?_of_base? hbase]

namespace Settings

/-- Two texts for one key, the first asked for in `l` and the second in `l'`. They differ in these
locales alone, and in what a handler makes of them. -/
structure AlikeTexts (s : Settings) (key : String) (r r' : Request) (l l' : Locale)
    (x x' : Resolution) : Prop where
  requested : x.requested = l
  requested' : x'.requested = l'
  locale : x.locale = x'.locale
  category : x.category = x'.category
  origin : x.origin = x'.origin
  text : x.origin ≠ .handler → x.text = x'.text
  handled : x.origin = .handler → ∃ handler, s.onMissing = some handler ∧
    x.text = handler key (x.locale.getD l) r ∧ x'.text = handler key (x'.locale.getD l') r'

/-- Two outcomes for one key, the first asked for in `l` and the second in `l'`: two texts that
differ in the locales alone, or the same error but for the locales. -/
inductive Alike (s : Settings) (key : String) (r r' : Request) (l l' : Locale) :
    Except LookupError Resolution → Except LookupError Resolution → Prop
  | text {x x' : Resolution} : s.AlikeTexts key r r' l l' x x' →
      Alike s key r r' l l' (.ok x) (.ok x')
  | noLocale : Alike s key r r' l l' (.error (.invalidLocale l)) (.error (.invalidLocale l'))
  | error {e : LookupError} : (∀ l, e ≠ .invalidLocale l) →
      Alike s key r r' l l' (.error e) (.error e)

variable {s : Settings} {c c' : Catalogue} {key : String} {r r' : Request} {l l' : Locale}

/-- **Nothing but the namespace that serves** is looked at. -/
theorem lookup_congr
    (hserving : c.serving? (s.requestedLocale r) = c'.serving? (s.requestedLocale r'))
    (hquantity : r.quantity = r'.quantity) : s.lookup c key r = s.lookup c' key r' := by
  rw [lookup, lookup, hserving, hquantity]

theorem resolve_congr (h : c.serving? (s.requestedLocale r) = c'.serving? (s.requestedLocale r)) :
    s.resolve c key r = s.resolve c' key r := by
  rw [resolve, resolve, lookup_congr h rfl]

theorem alikeTexts_standIn (served : Option Locale) :
    s.AlikeTexts key r r' (s.requestedLocale r) (s.requestedLocale r')
      (s.standIn key r (served.getD (s.requestedLocale r)) served)
      (s.standIn key r' (served.getD (s.requestedLocale r')) served) where
  requested := rfl
  requested' := rfl
  locale := rfl
  category := rfl
  origin := rfl
  text h := by
    cases hhandler : s.onMissing with
    | none => simp [standIn, standInText, hhandler]
    | some handler => simp [standIn, hhandler] at h
  handled h := by
    cases hhandler : s.onMissing with
    | none => simp [standIn, hhandler] at h
    | some handler => exact ⟨handler, rfl, by simp [standIn, standInText, hhandler]⟩

/-- **A lack is answered alike**: by the same error, or by texts that stand in alike. -/
theorem alike_onLack (lack : Lack) :
    s.Alike key r r' (s.requestedLocale r) (s.requestedLocale r') (s.onLack key r lack)
      (s.onLack key r' lack) := by
  rcases s.eq_strictly_or_leniently with hs | hs <;> rw [hs]
  · cases lack with
    | locale => exact .noLocale
    | entry served near => exact .error (by simp)
  · cases lack with
    | locale =>
      rw [leniently_onLack_locale, leniently_onLack_locale]
      exact .text (alikeTexts_standIn none)
    | entry served near =>
      rw [leniently_onLack_entry, leniently_onLack_entry]
      exact .text (alikeTexts_standIn (some served))

/-- **Requests that one namespace serves are answered alike.** -/
theorem alike_of_serving
    (hserving : c.serving? (s.requestedLocale r) = c.serving? (s.requestedLocale r'))
    (hvalues : r.values = r'.values) (hquantity : r.quantity = r'.quantity) :
    s.Alike key r r' (s.requestedLocale r) (s.requestedLocale r') (s.resolve c key r)
      (s.resolve c key r') := by
  have hlookup : s.lookup c key r = s.lookup c key r' := lookup_congr hserving hquantity
  cases hfound : s.lookup c key r with
  | error lack =>
    rw [resolve_of_lack hfound, resolve_of_lack (hlookup ▸ hfound)]
    exact alike_onLack lack
  | ok found =>
    obtain ⟨served, category, text⟩ := found
    -- Filling in looks at the text, the values and the quantity only, and these are the same.
    rw [resolve_of_found hfound, resolve_of_found (hlookup ▸ hfound), hvalues, hquantity]
    cases hfilled : Interpolation.complete (some key) text r'.values r'.quantity with
    | error e =>
      obtain ⟨rfl, -⟩ := Interpolation.complete_eq_error_iff.1 hfilled
      exact .error (by simp)
    | ok filled =>
      refine .text ⟨rfl, rfl, rfl, rfl, rfl, fun _ => rfl, ?_⟩
      intro h
      cases h

/-- **Falling back cannot be told from asking for the base, and is all or nothing.** Where a locale
has no namespace, asking for it and asking for its base give the same but for the locale that was
asked for. Where it has one, nothing else in the catalogue makes a difference. -/
theorem fallback_transparent (s : Settings) (c : Catalogue) (key : String) (r : Request)
    {l base : Locale} (hl : l.language ≠ "") (hbase : l.base? = some base) :
    (c.get? l = none →
      s.Alike key { r with locale := some l } { r with locale := some base } l base
        (s.resolve c key { r with locale := some l })
        (s.resolve c key { r with locale := some base })) ∧
    ∀ ns c', c.get? l = some ns → c'.get? l = some ns →
      s.resolve c key { r with locale := some l } =
        s.resolve c' key { r with locale := some l } := by
  have hasked : s.requestedLocale { r with locale := some l } = l :=
    s.requestedLocale_of_language rfl hl
  have hasked' : s.requestedLocale { r with locale := some base } = base := by
    apply s.requestedLocale_of_language rfl
    rwa [Locale.language_of_base? hbase]
  constructor
  · intro hnone
    -- Where the locale itself has nothing, the search goes on with its base.
    have hserving : c.serving? (s.requestedLocale { r with locale := some l }) =
        c.serving? (s.requestedLocale { r with locale := some base }) := by
      rw [hasked, hasked', Catalogue.serving?_eq_serving?_base hbase hnone]
    have halike : s.Alike key _ _ _ _ _ _ := alike_of_serving hserving rfl rfl
    rwa [hasked, hasked'] at halike
  · intro ns c' hc hc'
    apply resolve_congr
    rw [hasked, Catalogue.serving?_of_get? hc, Catalogue.serving?_of_get? hc']

/-- A rule that is set for the regional locale does not count where its base serves; and what the
regional namespace leaves empty is not taken from its base. -/
theorem fallback_transparent_portuguese :
    let portuguese : Locale := { language := "pt" }
    let brazilian : Locale := { language := "pt", region := some "BR" }
    let s : Settings :=
      { strict := true
        pluralRules := [(portuguese, fun _ => .one), (brazilian, fun _ => .many)] }
    let r : Request := { quantity := some (.integer 7) }
    let forms : PluralForms :=
      { other := "ficheiros", forms := [(.one, "ficheiro"), (.many, "arquivos")] }
    let c : Catalogue := [(portuguese, [("files", .plural forms)])]
    let c' : Catalogue := c.insert brazilian [("files", .text "")]
    (∃ x, s.resolve c "files" { r with locale := some brazilian } = .ok x ∧
      x.text = "ficheiro" ∧ x.category = some .one ∧ x.locale = some portuguese ∧
        x.requested = brazilian) ∧
    s.resolve c' "files" { r with locale := some brazilian } =
      .error (.missingText "files" brazilian []) := by
  intro portuguese brazilian s r forms c c'
  constructor
  · have hbase : s.resolve c "files" { r with locale := some portuguese } =
        .ok { text := "ficheiro", requested := portuguese, locale := some portuguese,
              category := some .one, origin := .catalogue } := by
      decide
    have h := (fallback_transparent s c "files" r (l := brazilian) (by decide) rfl).1 rfl
    rw [hbase] at h
    generalize s.resolve c "files" { r with locale := some brazilian } = outcome at h
    cases h with
    | text hx =>
      exact ⟨_, rfl, hx.text (by simp [hx.origin]), hx.category, hx.locale, hx.requested⟩
  · have halone : s.resolve [(brazilian, [("files", .text "")])] "files"
        { r with locale := some brazilian } = .error (.missingText "files" brazilian []) := rfl
    rw [← halone]
    exact (fallback_transparent s c' "files" r (l := brazilian) (by decide) rfl).2 _ _ rfl rfl

end Settings

end Phrasebook
