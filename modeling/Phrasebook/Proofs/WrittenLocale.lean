import Mathlib.Data.List.TakeWhile
import Phrasebook.Catalogue
import Phrasebook.Text.Dotted

/-!
# Locales that are written and read again

**Proper locales** (`Locale.Proper`). The language of a locale that was read has no dash and does
not begin with a blank. Its region, if it has one, is not empty and does not end with a blank. These
are all the locales that can be read (`proper_iff`), and the base of each of them is another.

**Lasting locales** (`Locale.Lasting`). A tag is trimmed before the dash at its end is dropped, so a
language may be left with a blank at its end. This blank is lost as soon as the language is written
and read again, without a dash behind it. Every other proper locale is read again as it is.

Main result: `ofTag_tag_iff`.
-/

namespace Phrasebook.Locale

open Text (isBlank trimBlanks)

variable {l base : Locale} {tag region : String}

/-! ## Reading tags -/

theorem ofTag_of_dash {front back : List Char} (h : trimBlanks tag.toList = front ++ '-' :: back)
    (hfront : '-' ∉ front) :
    ofTag tag = { language := String.ofList front
                  region := if back.isEmpty then none else some (String.ofList back) } := by
  simp only [ofTag, h, Text.takeWhile_ne_append hfront, Text.dropWhile_ne_append hfront,
    List.drop_one, List.tail_cons]

theorem ofTag_of_no_dash (h : '-' ∉ trimBlanks tag.toList) :
    ofTag tag = { language := Text.trim tag } := by
  have hkeep := Text.all_ne_of_notMem h
  have hfront : (trimBlanks tag.toList).takeWhile (· ≠ '-') = trimBlanks tag.toList :=
    List.takeWhile_eq_self_iff.2 hkeep
  have hback : (trimBlanks tag.toList).dropWhile (· ≠ '-') = [] :=
    List.dropWhile_eq_nil_iff.2 hkeep
  simp only [ofTag, hfront, hback]
  rfl

/-! ## Proper locales -/

/-- A language and a region that can stand around the first dash of a tag. -/
structure Proper (l : Locale) : Prop where
  no_dash : '-' ∉ l.language.toList
  first : ∀ c ∈ l.language.toList.head?, isBlank c = false
  region : ∀ r, l.region = some r → r ≠ "" ∧ ∀ c ∈ r.toList.getLast?, isBlank c = false

/-- **What is read is proper.** -/
theorem proper_ofTag (tag : String) : (ofTag tag).Proper := by
  by_cases hdash : '-' ∈ trimBlanks tag.toList
  -- The trimmed tag begins with the language and ends with the region, so neither has a blank
  -- there.
  · obtain ⟨front, back, hcs, hfront⟩ := List.eq_append_cons_of_mem hdash
    rw [ofTag_of_dash hcs hfront]
    constructor
    · simpa using hfront
    · intro c hc
      rw [String.toList_ofList] at hc
      apply Text.not_isBlank_of_head?_trimBlanks
      rw [hcs, List.head?_append, Option.mem_def.1 hc]
      rfl
    · intro r hr
      by_cases hback : back = []
      · simp [hback] at hr
      · obtain rfl : String.ofList back = r := by simpa [hback] using hr
        refine ⟨by simpa using hback, fun c hc => ?_⟩
        rw [String.toList_ofList] at hc
        apply Text.not_isBlank_of_getLast?_trimBlanks
        rw [hcs, List.getLast?_append, List.getLast?_cons_of_ne_nil hback, Option.mem_def.1 hc]
        rfl
  · rw [ofTag_of_no_dash hdash]
    constructor
    · simpa [Text.trim] using hdash
    · intro c hc
      rw [Text.trim, String.toList_ofList] at hc
      exact Text.not_isBlank_of_head?_trimBlanks hc
    · nofun

namespace Proper

/-- **The base of a proper locale is proper.** -/
theorem of_base? (h : l.Proper) (hbase : l.base? = some base) : base.Proper := by
  obtain ⟨-, -, rfl⟩ := Option.map_eq_some_iff.1 hbase
  exact ⟨h.no_dash, h.first, nofun⟩

/-- The language with a dash and what may be a region behind it. -/
theorem ofTag_dash (h : l.Proper) {back : List Char}
    (htag : tag.toList = l.language.toList ++ '-' :: back)
    (hback : ∀ c ∈ back.getLast?, isBlank c = false) :
    ofTag tag = { language := l.language
                  region := if back.isEmpty then none else some (String.ofList back) } := by
  -- The dash keeps apart what might be trimmed: at its ends the tag has no blank.
  have hfirst : ∀ c ∈ tag.toList.head?, isBlank c = false := by
    intro c hc
    rw [htag, List.head?_append] at hc
    rcases Option.or_eq_some_iff.1 hc with hc | ⟨-, hc⟩
    · exact h.first c hc
    · cases hc
      decide
  have hlast : ∀ c ∈ tag.toList.getLast?, isBlank c = false := by
    intro c hc
    rw [htag, List.getLast?_append, List.getLast?_cons] at hc
    cases hlast : back.getLast? with
    | none =>
      rw [hlast] at hc
      cases hc
      decide
    | some c' =>
      rw [hlast] at hc
      cases hc
      exact hback _ hlast
  rw [ofTag_of_dash ((Text.trimBlanks_eq_self hfirst hlast).trans htag) h.no_dash,
    String.ofList_toList]

/-- **A locale with a region is read as it is written.** -/
theorem ofTag_tag_of_region (h : l.Proper) (hregion : l.region = some region) :
    ofTag l.tag = l := by
  obtain ⟨hne, hlast⟩ := h.region region hregion
  have htag : l.tag.toList = l.language.toList ++ '-' :: region.toList := by
    rw [tag, hregion]
    simp
  have hnil : region.toList.isEmpty = false := by simpa using hne
  rw [h.ofTag_dash htag hlast, hnil, String.ofList_toList]
  cases l
  cases hregion
  rfl

/-- A locale without a region is read from its language with a dash behind it. -/
theorem ofTag_language_dash (h : l.Proper) (hregion : l.region = none) :
    ofTag (l.language ++ "-") = l := by
  have htag : (l.language ++ "-").toList = l.language.toList ++ '-' :: [] := by simp
  rw [h.ofTag_dash htag nofun]
  cases l
  cases hregion
  rfl

/-- **Without a dash** the blanks at the end of the language are lost. -/
theorem ofTag_tag_of_no_region (h : l.Proper) (hregion : l.region = none) :
    ofTag l.tag = { language := Text.trim l.language } := by
  rw [tag, hregion]
  exact ofTag_of_no_dash fun hmem => h.no_dash (Text.mem_of_mem_trimBlanks hmem)

end Proper

/-- **The proper locales are those that can be read.** -/
theorem proper_iff : l.Proper ↔ ∃ tag, ofTag tag = l := by
  constructor
  · intro h
    cases hregion : l.region with
    | none => exact ⟨_, h.ofTag_language_dash hregion⟩
    | some region => exact ⟨_, h.ofTag_tag_of_region hregion⟩
  · rintro ⟨tag, rfl⟩
    exact proper_ofTag tag

/-! ## Lasting locales -/

/-- A locale whose tag has no blank at its end for want of a region. -/
def Lasting (l : Locale) : Prop :=
  l.region = none → ∀ c ∈ l.language.toList.getLast?, isBlank c = false

instance (l : Locale) : Decidable l.Lasting :=
  decidable_of_iff (l.region.isSome ∨ l.language.toList.getLast?.all fun c => !isBlank c)
    (by cases h : l.region <;> simp [Lasting, h, Option.all_eq_true])

namespace Proper

/-- **A locale is read as it is written** exactly if it is lasting. -/
theorem ofTag_tag_eq_iff (h : l.Proper) : ofTag l.tag = l ↔ l.Lasting := by
  cases hregion : l.region with
  | some region => exact iff_of_true (h.ofTag_tag_of_region hregion) (by simp [Lasting, hregion])
  | none =>
    rw [h.ofTag_tag_of_no_region hregion]
    constructor
    · intro heq _ c hc
      rw [← heq, Text.trim, String.toList_ofList] at hc
      exact Text.not_isBlank_of_getLast?_trimBlanks hc
    · intro hlast
      rw [Text.trim, Text.trimBlanks_eq_self h.first (hlast hregion), String.ofList_toList]
      cases l
      cases hregion
      rfl

theorem ofTag_tag_of_not_lasting (h : l.Proper) (hlast : ¬ l.Lasting) :
    ofTag l.tag = { language := Text.trim l.language } := by
  refine h.ofTag_tag_of_no_region ?_
  by_contra hregion
  exact hlast fun hnone => absurd hnone hregion

end Proper

/-! ## Looking up by the tag -/

/-- What a catalogue lists is found by its tag if it is lasting, or else if the catalogue lists the
trimmed language as well. -/
theorem Proper.exists_get?_iff (h : l.Proper) {c : Catalogue} (hl : l ∈ c.keys) :
    (∃ ns, c.get? (ofTag l.tag) = some ns) ↔
      l.Lasting ∨ { language := Text.trim l.language } ∈ c.keys := by
  rw [← Option.isSome_iff_exists, Option.isSome_iff_ne_none, ne_eq, Dict.get?_eq_none_iff, not_not]
  by_cases hlast : l.Lasting
  · rw [h.ofTag_tag_eq_iff.2 hlast]
    exact iff_of_true hl (.inl hlast)
  · rw [h.ofTag_tag_of_not_lasting hlast]
    simp [hlast]

/-- **A locale is written and read again** as it was exactly if it is lasting, as a tag and in JSON.
This holds of all that is read from tags and of their bases. A locale that is not lasting is read
again as its trimmed language. So a catalogue finds what it lists by its tag exactly if this is
lasting, or if the trimmed language is listed too. -/
theorem ofTag_tag_iff (tag : String) : ∀ l ∈ ofTag tag :: (ofTag tag).base?.toList,
    (ofTag l.tag = l ↔ l.Lasting) ∧
    (ofJson? l.toJson = some l ↔ l.Lasting) ∧
    (¬ l.Lasting → ofTag l.tag = { language := Text.trim l.language }) ∧
    ∀ c : Catalogue, l ∈ c.keys → ((∃ ns, c.get? (ofTag l.tag) = some ns) ↔
      l.Lasting ∨ { language := Text.trim l.language } ∈ c.keys) := by
  intro l hl
  have h : l.Proper := by
    rcases List.mem_cons.1 hl with rfl | hl
    · exact proper_ofTag tag
    · exact (proper_ofTag tag).of_base? (Option.mem_toList.1 hl)
  refine ⟨h.ofTag_tag_eq_iff, ?_, h.ofTag_tag_of_not_lasting, fun c => h.exists_get?_iff⟩
  rw [← h.ofTag_tag_eq_iff]
  exact Option.some_inj

/-- A blank in front of a dash is kept as long as there is a region. -/
theorem ofTag_tag_iff_breton :
    let breton : Locale := { language := "br ", region := some " FR" }
    let base : Locale := { language := "br " }
    ofTag "\tbr - FR\n" = breton ∧ breton.base? = some base ∧ ofTag breton.tag = breton ∧
      ofJson? breton.toJson = some breton ∧ ofTag base.tag = { language := "br" } := by
  intro breton base
  have hread : ofTag "\tbr - FR\n" = breton := rfl
  have hbase : breton.base? = some base := rfl
  have hlasting : breton.Lasting := by decide
  have hfading : ¬ base.Lasting := by decide
  obtain ⟨htag, hjson, -, -⟩ := ofTag_tag_iff "\tbr - FR\n" breton (by simp [hread])
  obtain ⟨-, -, htrim, -⟩ := ofTag_tag_iff "\tbr - FR\n" base (by simp [hread, hbase])
  exact ⟨hread, hbase, htag.2 hlasting, hjson.2 hlasting, (htrim hfading).trans (by decide)⟩

/-- A blank before the dash at the end of a tag stays with the language, and so does a blank before
a region that is dropped. Both are lost when the language is read again. -/
theorem blank_before_dash_lost :
    let l : Locale := { language := "en " }
    let c : Catalogue := Catalogue.set [] l []
    ofTag "en -" = l ∧ (ofTag "en -GB").base? = some l ∧ ofTag l.tag ≠ l ∧
      ofJson? l.toJson ≠ some l ∧ c.keys = [l] ∧ c.get? (ofTag l.tag) = none := by
  decide

end Phrasebook.Locale
