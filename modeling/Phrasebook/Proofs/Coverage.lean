import Mathlib
import Phrasebook.CommandLine.Coverage
import Phrasebook.Proofs.Command
import Phrasebook.Proofs.MissingKeys

/-!
# Rows of coverage

The survey of coverage loads one file after another into one translator, each under the locale that
its language names. A row is measured against what the translator holds by then.

**What the translator holds** (`loaded`, `rows_eq`). After each language the catalogue is that of
the source file and of the languages' files so far, the last one of each locale.

**Rows by themselves** (`Apart`). Two languages may name one locale, and a language may name the
source's. Where no file with other keys has been loaded under the source's locale, and none under
the locale of a language that has no file of its own, the row of a language depends on the source
file and on the language's own file alone.

Main result: `survey_of_apart`.
-/

namespace Phrasebook

namespace Namespace

variable {source source' target : Namespace}

theorem lacking_congr (h : source.leafKeys = source'.leafKeys) (target : Namespace) :
    source.lacking target = source'.lacking target := by
  rw [lacking, lacking, h]

theorem lacking_eq_nil_of_leafKeys (h : source.leafKeys = target.leafKeys) :
    source.lacking target = [] := by
  rw [lacking_eq_filter, h]
  simp

theorem length_lacking_le (source target : Namespace) :
    (source.lacking target).length ≤ source.leafKeys.length :=
  List.length_filter_le _ _

end Namespace

namespace CommandLine.Coverage

open Translator (readFile)

variable {files : Files} {o : Coverage} {S : Namespace} {before rest : List String}
  {language : String} {t : Translator} {total : Nat}

/-- The locale of the source file. -/
def sourceLocale (o : Coverage) : Locale :=
  .ofTag (Path.stem o.source)

/-- What the file of a language says, if there is one that can be loaded. -/
def own? (files : Files) (o : Coverage) (language : String) : Option Namespace :=
  if files.has (languagePath o.folder language) then
    (readFile files (.ofTag language) (languagePath o.folder language)).toOption
  else none

/-- A language has no file, or one that can be loaded. -/
def Loads (files : Files) (o : Coverage) (language : String) : Prop :=
  files.has (languagePath o.folder language) →
    ∃ T, readFile files (.ofTag language) (languagePath o.folder language) = .ok T

/-- What a language is compared by: its own file. Without a file it is the source itself, if it has
the source's locale, and empty otherwise. -/
def own (files : Files) (o : Coverage) (S : Namespace) (language : String) : Namespace :=
  match own? files o language with
  | some T => T
  | none => if Locale.ofTag language = sourceLocale o then S else []

/-- The row of a language that is compared by its own namespace. -/
def Row.between (S T : Namespace) (language : String) : Row where
  language := language
  translated := (S.leafKeys.length - (S.lacking T).length).toUInt64
  missing := S.lacking T

/-! ## What the translator holds -/

/-- The namespaces that were loaded, each with its locale. -/
def loaded (files : Files) (o : Coverage) (S : Namespace) (languages : List String) :
    List (Locale × Namespace) :=
  (sourceLocale o, S) :: languages.filterMap fun language =>
    (own? files o language).map fun T => (.ofTag language, T)

theorem loaded_append_single (files : Files) (o : Coverage) (S : Namespace) (before : List String)
    (language : String) :
    loaded files o S (before ++ [language]) = loaded files o S before ++
      ((own? files o language).map fun T => (Locale.ofTag language, T)).toList := by
  rw [loaded, loaded, List.filterMap_append, List.cons_append]
  cases h : own? files o language <;> simp [h]

/-- The row of a language by what a catalogue holds. -/
def Row.measured (c : Catalogue) (source : Locale) (total : Nat) (language : String) : Row where
  language := language
  translated := total.toUInt64 - (c.lacking source (.ofTag language)).length.toUInt64
  missing := c.lacking source (.ofTag language)

/-- **One language**: its file is added to what is loaded. -/
theorem loadLanguage_eq (h : Loads files o language)
    (ht : t.catalogue = .ofList (loaded files o S before)) :
    ∃ t', loadLanguage files o.folder language t = .ok t' ∧
      t'.catalogue = .ofList (loaded files o S (before ++ [language])) := by
  by_cases hfile : files.has (languagePath o.folder language)
  · obtain ⟨T, hT⟩ := h hfile
    have hown : own? files o language = some T := by
      rw [own?, if_pos hfile, hT]
      rfl
    rw [loadLanguage, if_pos hfile, Translator.load_of_read hT]
    refine ⟨_, rfl, ?_⟩
    rw [loaded_append_single, hown, Dict.ofList, Dict.insertAll_append, ← Dict.ofList, ← ht]
    rfl
  · have hown : own? files o language = none := if_neg hfile
    refine ⟨t, if_neg hfile, ?_⟩
    rw [loaded_append_single, hown, Option.map_none, Option.toList_none, List.append_nil, ht]

/-- The rows of languages, each measured by the files up to its own. -/
def measuredRows (files : Files) (o : Coverage) (S : Namespace) (before : List String) :
    List String → List Row
  | [] => []
  | language :: rest =>
    .measured (.ofList (loaded files o S (before ++ [language]))) (sourceLocale o)
      S.leafKeys.length language :: measuredRows files o S (before ++ [language]) rest

/-- **All languages**: each row is measured by the files up to its own. -/
theorem rows_eq {languages : List String} (h : ∀ language ∈ languages, Loads files o language)
    (ht : t.catalogue = .ofList (loaded files o S before)) :
    rows files o.folder (sourceLocale o) S.leafKeys.length t languages =
      .ok (measuredRows files o S before languages) := by
  induction languages generalizing before t with
  | nil => rfl
  | cons language rest ih =>
    obtain ⟨t', hload, ht'⟩ := loadLanguage_eq (h language List.mem_cons_self) ht
    have hrest := ih (fun l hl => h l (List.mem_cons_of_mem _ hl)) ht'
    rw [rows, hload]
    show (rows files o.folder (sourceLocale o) S.leafKeys.length t' rest).bind _ = _
    rw [hrest, Translator.missingKeys, ht']
    rfl

theorem survey_eq (hS : readFile files (sourceLocale o) o.source = .ok S)
    (hfiles : ∀ language ∈ o.languages, Loads files o language) :
    survey files o = .ok (S.leafKeys.length, measuredRows files o S [] o.languages) := by
  let t : Translator :=
    { catalogue := .insert [] (sourceLocale o) S, paths := .insert [] (sourceLocale o) o.source }
  have ht : t.catalogue = .ofList (loaded files o S []) := rfl
  have hload : Translator.load {} files (sourceLocale o) o.source = (.ok S.leafKeys.length, t) :=
    Translator.load_of_read hS
  rw [survey, ← sourceLocale, hload]
  show (rows files o.folder (sourceLocale o) S.leafKeys.length t o.languages).bind _ = _
  rw [rows_eq hfiles ht]
  rfl

theorem map_language_measuredRows (before languages : List String) :
    (measuredRows files o S before languages).map (·.language) = languages := by
  induction languages generalizing before with
  | nil => rfl
  | cons language rest ih => exact congrArg (language :: ·) (ih _)

theorem getElem?_measuredRows (before earlier : List String) (language : String)
    (later : List String) :
    (measuredRows files o S before (earlier ++ language :: later))[earlier.length]? =
      some (.measured (.ofList (loaded files o S (before ++ earlier ++ [language])))
        (sourceLocale o) S.leafKeys.length language) := by
  induction earlier generalizing before with
  | nil => simp [measuredRows]
  | cons first earlier ih => simpa [measuredRows] using ih (before ++ [first])

/-! ## Rows by themselves -/

/-- No other file stands in the way of a language: none with other keys than the source's was loaded
under the source's locale, and none under the locale of the language, if it has no file itself. -/
structure Apart (files : Files) (o : Coverage) (S : Namespace) (before : List String)
    (language : String) : Prop where
  source : ∀ l ∈ before ++ [language], Locale.ofTag l = sourceLocale o →
    ∀ T, own? files o l = some T → T.leafKeys = S.leafKeys
  absent : own? files o language = none → Locale.ofTag language ≠ sourceLocale o →
    ∀ l ∈ before, Locale.ofTag l = .ofTag language → own? files o l = none

/-- Beside the source, each namespace that was loaded is a language's own. -/
theorem exists_of_mem_loaded {languages : List String} {e : Locale × Namespace}
    (h : e ∈ loaded files o S languages) :
    e = (sourceLocale o, S) ∨ ∃ l ∈ languages, Locale.ofTag l = e.1 ∧ own? files o l = some e.2 := by
  refine (List.mem_cons.1 h).imp_right fun he => ?_
  obtain ⟨l, hl, he⟩ := List.mem_filterMap.1 he
  obtain ⟨T, hT, rfl⟩ := Option.map_eq_some_iff.1 he
  exact ⟨l, hl, rfl, hT⟩

/-- The source's locale holds the source's keys. -/
theorem get?_source (h : Apart files o S before language) :
    ∃ S', Dict.get? (.ofList (loaded files o S (before ++ [language]))) (sourceLocale o) = some S' ∧
      S'.leafKeys = S.leafKeys := by
  -- File by file: whatever is loaded under the source's locale has the source's keys.
  refine Dict.get?_insertAll_induction (d := Dict.insert [] (sourceLocale o) S)
    (P := fun ns => ∃ S', ns = some S' ∧ S'.leafKeys = S.leafKeys)
    ⟨S, Dict.get?_insert_self _ _ _, rfl⟩ fun e he hlocale => ?_
  rcases exists_of_mem_loaded (S := S) (List.mem_cons_of_mem _ he) with rfl | ⟨l, hl, htag, hown⟩
  · exact ⟨S, rfl, rfl⟩
  · exact ⟨e.2, rfl, h.source l hl (htag.trans hlocale) _ hown⟩

/-- A language with a file has the keys of its file. -/
theorem get?_of_own {T : Namespace} (h : own? files o language = some T) :
    Dict.get? (.ofList (loaded files o S (before ++ [language]))) (Locale.ofTag language) =
      some T := by
  rw [loaded_append_single, h, Dict.ofList, Dict.insertAll_append]
  exact Dict.get?_insert_self _ _ _

/-- A language without a file has no keys, unless its locale is the source's. -/
theorem get?_of_absent (h : Apart files o S before language) (hown : own? files o language = none)
    (hne : Locale.ofTag language ≠ sourceLocale o) :
    Dict.get? (.ofList (loaded files o S (before ++ [language]))) (Locale.ofTag language) = none := by
  rw [loaded_append_single, hown, Option.map_none, Option.toList_none, List.append_nil]
  refine Dict.get?_insertAll_induction (P := (· = none)) rfl fun e he hlocale => ?_
  rcases exists_of_mem_loaded he with rfl | ⟨l, hl, htag, hown'⟩
  · exact absurd hlocale.symm hne
  · rw [h.absent hown hne l hl (htag.trans hlocale)] at hown'
    cases hown'

/-- What a language lacks by what the translator holds is what its own namespace lacks. -/
theorem lacking_of_apart (h : Apart files o S before language) :
    Catalogue.lacking (.ofList (loaded files o S (before ++ [language]))) (sourceLocale o)
      (.ofTag language) = S.lacking (own files o S language) := by
  obtain ⟨S', hS', hkeys⟩ := get?_source h
  rw [Catalogue.lacking, hS', Option.getD_some, Namespace.lacking_congr hkeys, own]
  cases hown : own? files o language with
  | some T => rw [get?_of_own hown, Option.getD_some]
  | none =>
    dsimp only
    split
    · next hsource =>
      -- Without a file a language with the source's locale is the source itself, and lacks nothing.
      rw [hsource, hS', Option.getD_some, Namespace.lacking_eq_nil_of_leafKeys hkeys.symm,
        Namespace.lacking_eq_nil_of_leafKeys rfl]
    · next hne => rw [get?_of_absent h hown hne, Option.getD_none]

theorem measured_of_apart (h : Apart files o S before language) :
    Row.measured (.ofList (loaded files o S (before ++ [language]))) (sourceLocale o)
      S.leafKeys.length language = .between S (own files o S language) language := by
  rw [Row.measured, Row.between, lacking_of_apart h]
  congr 1
  exact (UInt64.ofNat_sub (Namespace.length_lacking_le _ _)).symm

/-- **The survey**: its total is the number of the source's leaf keys, there is one row for each
language, and the row of a language that stands apart from those before it depends on the source
file and its own file alone. -/
theorem survey_of_apart (hS : readFile files (sourceLocale o) o.source = .ok S)
    (hfiles : ∀ language ∈ o.languages, Loads files o language) :
    ∃ rs, survey files o = .ok (S.leafKeys.length, rs) ∧ rs.map (·.language) = o.languages ∧
      ∀ before language after, o.languages = before ++ language :: after →
        Apart files o S before language →
          rs[before.length]? = some (.between S (own files o S language) language) ∧
            (S.lacking (own files o S language)).length ≤ S.leafKeys.length := by
  refine ⟨_, survey_eq hS hfiles, map_language_measuredRows [] o.languages,
    fun before language after hsplit hapart => ⟨?_, Namespace.length_lacking_le _ _⟩⟩
  rw [hsplit, getElem?_measuredRows, List.nil_append, measured_of_apart hapart]

theorem loads_of_own? {T : Namespace} (h : own? files o language = some T) :
    Loads files o language := by
  intro hfile
  rw [own?, if_pos hfile] at h
  cases hread : readFile files (.ofTag language) (languagePath o.folder language) with
  | ok T' => exact ⟨T', rfl⟩
  | error e =>
    rw [hread] at h
    cases h

/-- Files with their texts. -/
def filesOf (texts : Dict String String) : Files where
  read path := (texts.get? path).elim (.error .notFound) .ok
  has := texts.has

section

variable {texts : Dict String String} {text : String} {data : Json} {ns : Namespace}

theorem readFile_filesOf {l : Locale} {path : String} (hpath : texts.get? path = some text)
    (htext : Json.ofText text = .ok data) (hdata : Namespace.ofJson data = .ok ns) :
    readFile (filesOf texts) l path = .ok ns := by
  have hread : (filesOf texts).read path = .ok text := by
    show (texts.get? path).elim _ _ = _
    rw [hpath, Option.elim_some]
  rw [readFile, Translator.readJson, hread]
  dsimp only
  rw [htext, Except.bind, Catalogue.readNamespace, hdata]

theorem languagePath_of_folder_empty (h : o.folder = "") :
    languagePath o.folder language = language ++ ".json" := by
  rw [h]
  exact if_pos (.inr rfl)

theorem own?_filesOf (hfolder : o.folder = "") (hpath : texts.get? (language ++ ".json") = some text)
    (htext : Json.ofText text = .ok data) (hdata : Namespace.ofJson data = .ok ns) :
    own? (filesOf texts) o language = some ns := by
  have hfile : (filesOf texts).has (language ++ ".json") := by
    show texts.has _ = true
    rw [Dict.has, hpath, Option.isSome_some]
  rw [own?, languagePath_of_folder_empty hfolder, if_pos hfile,
    readFile_filesOf hpath htext hdata]
  rfl

theorem not_has_filesOf (hfolder : o.folder = "") (hpath : texts.get? (language ++ ".json") = none) :
    ¬ (filesOf texts).has (languagePath o.folder language) := by
  rw [languagePath_of_folder_empty hfolder]
  show ¬ texts.has _ = true
  rw [Dict.has, hpath]
  exact Bool.false_ne_true

end

/-- Swedish has one of two keys, and Danish has no file. -/
theorem survey_of_apart_nordic :
    let files := filesOf [("en.json", "\x7b\"a\":\"A\",\"b\":\"B\"\x7d"),
      ("sv.json", "\x7b\"a\":\"X\"\x7d")]
    let o : Coverage := { source := "en.json", languages := ["sv", "da"] }
    ∃ rs, survey files o = .ok (2, rs) ∧ rs[0]? = some ⟨"sv", 1, ["b"]⟩ ∧
      rs[1]? = some ⟨"da", 0, ["a", "b"]⟩ := by
  intro files o
  have hfolder : o.folder = "" := by decide +kernel
  let S : Namespace := [("a", .text "A"), ("b", .text "B")]
  have hS : readFile files (sourceLocale o) o.source = .ok S :=
    readFile_filesOf rfl (by cbv) rfl
  have hsv : own? files o "sv" = some [("a", .text "X")] :=
    own?_filesOf hfolder rfl (by cbv) rfl
  have hnofile : ¬ files.has (languagePath o.folder "da") := not_has_filesOf hfolder rfl
  have hda : own? files o "da" = none := if_neg hnofile
  have hfiles : ∀ language ∈ o.languages, Loads files o language := by
    rintro language (_ | ⟨_, _ | ⟨_, ⟨⟩⟩⟩)
    · exact loads_of_own? hsv
    · exact fun h => absurd h hnofile
  have hother : Locale.ofTag "sv" ≠ sourceLocale o ∧ Locale.ofTag "da" ≠ sourceLocale o ∧
      Locale.ofTag "sv" ≠ Locale.ofTag "da" := by decide +kernel
  obtain ⟨rs, hrs, -, hrows⟩ := survey_of_apart hS hfiles
  obtain ⟨hsvRow, -⟩ := hrows [] "sv" ["da"] rfl
    { source := by simp [hother.1], absent := by simp [hsv] }
  obtain ⟨hdaRow, -⟩ := hrows ["sv"] "da" [] rfl
    { source := by simp [hother.1, hother.2.1], absent := by simp [hother.2.2] }
  have hsvOwn : own files o S "sv" = [("a", .text "X")] := by rw [own, hsv]
  have hdaOwn : own files o S "da" = [] := by rw [own, hda, if_neg hother.2.1]
  rw [hsvOwn] at hsvRow
  rw [hdaOwn] at hdaRow
  have htotal : S.leafKeys.length = 2 := by cbv
  exact ⟨rs, htotal ▸ hrs, hsvRow.trans (by cbv), hdaRow.trans (by cbv)⟩

/-- **Two files under one locale**: a translation file of the source's own locale takes the place of
the source file, and Swedish seems to have a key that it lacks. -/
theorem survey_source_replaced :
    let files := filesOf [("en.json", "\x7b\"a\":\"A\"\x7d"),
      ("en.template", "\x7b\"a\":\"A\",\"b\":\"B\"\x7d"), ("sv.json", "\x7b\"a\":\"X\"\x7d")]
    let o : Coverage := { source := "en.template", languages := ["en", "sv"] }
    ∃ S, readFile files (sourceLocale o) o.source = .ok S ∧
      (∀ language ∈ o.languages, Loads files o language) ∧
      survey files o = .ok (2, [⟨"en", 2, []⟩, ⟨"sv", 2, []⟩]) ∧
      Row.between S (own files o S "en") "en" = ⟨"en", 1, ["b"]⟩ ∧
      Row.between S (own files o S "sv") "sv" = ⟨"sv", 1, ["b"]⟩ := by
  intro files o
  have hsource : sourceLocale o = { language := "en" } := by decide +kernel
  have hfolder : o.folder = "" := by decide +kernel
  let S : Namespace := [("a", .text "A"), ("b", .text "B")]
  have hS : readFile files (sourceLocale o) o.source = .ok S :=
    readFile_filesOf rfl (by cbv) rfl
  have hen : own? files o "en" = some [("a", .text "A")] :=
    own?_filesOf hfolder rfl (by cbv) rfl
  have hsv : own? files o "sv" = some [("a", .text "X")] :=
    own?_filesOf hfolder rfl (by cbv) rfl
  have hfiles : ∀ language ∈ o.languages, Loads files o language := by
    rintro language (_ | ⟨_, _ | ⟨_, ⟨⟩⟩⟩)
    · exact loads_of_own? hen
    · exact loads_of_own? hsv
  refine ⟨S, hS, hfiles, ?_, ?_, ?_⟩
  · rw [survey_eq hS hfiles]
    have hfirst : loaded files o S ["en"] =
        [({ language := "en" }, S), ({ language := "en" }, [("a", .text "A")])] := by
      rw [loaded, hsource]
      simp only [List.filterMap_cons, List.filterMap_nil, hen, Option.map_some]
      cbv
    have hboth : loaded files o S ["en", "sv"] = [({ language := "en" }, S),
        ({ language := "en" }, [("a", .text "A")]), ({ language := "sv" }, [("a", .text "X")])] := by
      rw [loaded, hsource]
      simp only [List.filterMap_cons, List.filterMap_nil, hen, hsv, Option.map_some]
      rfl
    show Except.ok (_, measuredRows files o S [] ["en", "sv"]) = _
    simp only [measuredRows, List.nil_append, List.cons_append, hfirst, hboth, hsource]
    cbv
  · rw [own, hen]
    cbv
  · rw [own, hsv]
    cbv

end CommandLine.Coverage

end Phrasebook
