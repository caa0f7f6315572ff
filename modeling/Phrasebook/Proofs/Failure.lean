import Phrasebook.Proofs.Command

/-!
# What a failure leaves behind

Data are read completely before anything is stored, so a command that fails keeps the settings and
every namespace. Nor does it touch a remembered file, with one exception: setting a namespace
forgets the file of its locale before it looks at the data.

**The exception** (`Command.Forgets`). A namespace is set for a locale whose file is remembered.

**Loading again** (`SameReload`). The remembered files are seen only by loading again. Without the
exception it goes the way it would have gone before; with it, the answer is that the locale was
never loaded, though its namespace still is the one from the file.

Main result: `step_of_failure`, with the exception as the exact condition.
-/

namespace Phrasebook

variable {t t' : Translator} {c : Command} {l l' : Locale} {data : Json} {files : Files}
  {path : String} {e : LoadError}

namespace Translator

/-! ## Each operation -/

theorem set_of_error (h : (t.set l data).1 = .error e) :
    (t.set l data).2 = { t with paths := t.paths.erase l } := by
  cases hr : Catalogue.readNamespace (some l) data with
  | ok ns =>
    rw [set_of_read hr] at h
    cases h
  | error e' => rw [set_of_fault hr]

theorem add_of_error (h : (t.add l data).1 = .error e) : (t.add l data).2 = t := by
  cases hr : Catalogue.readNamespace (some l) data with
  | ok ns =>
    rw [add_of_read hr] at h
    cases h
  | error e' => rw [add_of_fault hr]

theorem replaceAll_of_error (h : (t.replaceAll data).1 = .error e) :
    (t.replaceAll data).2 = t := by
  cases hr : Catalogue.ofJson data with
  | ok c =>
    rw [replaceAll_of_read hr] at h
    cases h
  | error e' => rw [replaceAll_of_fault hr]

theorem load_of_error (h : (t.load files l path).1 = .error e) :
    (t.load files l path).2 = t := by
  cases hr : readFile files l path with
  | ok ns =>
    rw [load_of_read hr] at h
    cases h
  | error e' => rw [load_of_fault hr]

theorem reload_of_error (h : (t.reload files l).1 = .error e) : (t.reload files l).2 = t := by
  cases hp : t.paths.get? l with
  | some path =>
    rw [reload_of_remembered hp] at h ⊢
    exact load_of_error h
  | none => rw [reload_of_forgotten hp]

theorem Step.of_done_error {α : Type} {x : Step α} (h : x.done.1 = .error e) :
    x.1 = .error e := by
  obtain ⟨answer, after⟩ := x
  cases answer with
  | ok a => cases h
  | error e' =>
    obtain rfl := Except.error.inj h
    rfl

end Translator

namespace Command

/-- Setting the namespace of a locale forgets the file that the locale was loaded from. -/
def Forgets (t : Translator) (l : Locale) : Command → Prop
  | set l' _ => l' = l ∧ t.paths.has l
  | _ => False

/-- What is left of a translator when a command fails. -/
def leftover (t : Translator) : Command → Translator
  | set l _ => { t with paths := t.paths.erase l }
  | _ => t

theorem step_of_error (h : (c.step t).1 = .error e) : (c.step t).2 = c.leftover t := by
  cases c with
  | configure u => cases h
  | replaceSettings s => cases h
  | setLocale l => cases h
  | clearLocale => cases h
  | setPluralRule l rule => cases h
  | set l data => exact Translator.set_of_error h
  | add l data => exact Translator.add_of_error h
  | replaceAll data => exact Translator.replaceAll_of_error h
  | remove l => cases h
  | removeAll => cases h
  | load files l path => exact Translator.load_of_error (Translator.Step.of_done_error h)
  | reload files l => exact Translator.reload_of_error (Translator.Step.of_done_error h)

/-! ## Remembered files -/

theorem leftover_settings : (c.leftover t).settings = t.settings := by
  cases c <;> rfl

theorem leftover_catalogue : (c.leftover t).catalogue = t.catalogue := by
  cases c <;> rfl

theorem paths_of_forgets (h : c.Forgets t l) :
    ∃ path, t.paths.get? l = some path ∧ (c.leftover t).paths.get? l = none := by
  cases c with
  | set l' data =>
    obtain ⟨rfl, hl⟩ := h
    obtain ⟨path, hp⟩ := Option.isSome_iff_exists.1 hl
    exact ⟨path, hp, Dict.get?_erase_self t.paths l'⟩
  | _ => exact h.elim

theorem paths_of_not_forgets (h : ¬ c.Forgets t l) :
    (c.leftover t).paths.get? l = t.paths.get? l := by
  cases c with
  | set l' data =>
    by_cases hl : l' = l
    · -- The file of the locale is forgotten, but there was none.
      subst hl
      have hnone : t.paths.get? l' = none :=
        Option.not_isSome_iff_eq_none.1 fun hs => h ⟨rfl, hs⟩
      simp [leftover, hnone]
    · exact Dict.get?_erase_of_ne hl t.paths
  | _ => rfl

theorem leftover_eq_self (h : ∀ l, ¬ c.Forgets t l) : c.leftover t = t := by
  cases c with
  | set l data =>
    have hl : t.paths.get? l = none :=
      Option.not_isSome_iff_eq_none.1 fun hs => h l ⟨rfl, hs⟩
    show { t with paths := t.paths.erase l } = t
    rw [Dict.erase_eq_self hl]
  | _ => rfl

end Command

/-! ## Loading again -/

namespace Translator

/-- Loading a locale again goes the same way from two translators: the answer is the same, and so
are all namespaces afterwards. -/
def SameReload (files : Files) (l : Locale) (t t' : Translator) : Prop :=
  (t.reload files l).1 = (t'.reload files l).1 ∧
    (t.reload files l).2.catalogue = (t'.reload files l).2.catalogue

theorem sameReload (hc : t'.catalogue = t.catalogue) (hp : t'.paths.get? l = t.paths.get? l)
    (files : Files) : SameReload files l t t' := by
  unfold SameReload
  cases h : t.paths.get? l with
  | none =>
    rw [reload_of_forgotten h, reload_of_forgotten (hp.trans h)]
    exact ⟨rfl, hc.symm⟩
  | some path =>
    rw [reload_of_remembered h, reload_of_remembered (hp.trans h), load_eq, load_eq, hc]
    cases readFile files l path with
    | ok ns => exact ⟨rfl, rfl⟩
    | error e => exact ⟨rfl, hc.symm⟩

theorem load_ne_neverLoaded : (t.load files l path).1 ≠ .error (.neverLoaded l') := by
  unfold load readJson
  cases files.read path with
  | error cause => nofun
  | ok text =>
    dsimp only
    cases Json.ofText text with
    | error fault => nofun
    | ok data =>
      dsimp only [Catalogue.readNamespace]
      cases Namespace.ofJson data <;> nofun

theorem not_sameReload (h : t.paths.get? l = some path) (h' : t'.paths.get? l = none)
    (files : Files) : ¬ SameReload files l t t' := by
  rintro ⟨hanswer, -⟩
  rw [reload_of_remembered h, reload_of_forgotten h'] at hanswer
  exact load_ne_neverLoaded hanswer

end Translator

namespace Command

/-- **What a failure leaves behind.** The settings and all namespaces are as they were. A locale's
file is still remembered, and loading the locale again goes as it would have gone, exactly unless
the command was to set the namespace of that locale and its file was remembered. -/
theorem step_of_failure (h : (c.step t).1 = .error e) :
    (c.step t).2.settings = t.settings ∧ (c.step t).2.catalogue = t.catalogue ∧
    ((c.step t).2 = t ↔ ∀ l, ¬ c.Forgets t l) ∧
    ∀ l, ((c.step t).2.paths.get? l = t.paths.get? l ↔ ¬ c.Forgets t l) ∧
      ∀ files, Translator.SameReload files l t (c.step t).2 ↔ ¬ c.Forgets t l := by
  rw [step_of_error h]
  have hpaths (l : Locale) : (c.leftover t).paths.get? l = t.paths.get? l ↔ ¬ c.Forgets t l := by
    refine ⟨fun heq hf => ?_, paths_of_not_forgets⟩
    obtain ⟨path, hp, hn⟩ := paths_of_forgets hf
    rw [hn, hp] at heq
    cases heq
  refine ⟨leftover_settings, leftover_catalogue, ⟨fun heq l => ?_, leftover_eq_self⟩,
    fun l => ⟨hpaths l, fun files => ⟨fun hs hf => ?_, fun hf => ?_⟩⟩⟩
  · rw [← hpaths, heq]
  · obtain ⟨path, hp, hn⟩ := paths_of_forgets hf
    exact Translator.not_sameReload hp hn files hs
  · exact Translator.sameReload leftover_catalogue (paths_of_not_forgets hf) files

end Command

/-! ## Two failures -/

/-- One file and nothing else. -/
def Files.single (path text : String) : Files where
  read p := if p = path then .ok text else .error .notFound
  has p := p = path

namespace Translator

theorem readFile_single_empty (l : Locale) (path : String) :
    readFile (.single path "{}") l path = .ok [] := by
  have htext : Json.ofText "{}" = .ok (.object []) := rfl
  simp only [readFile, readJson, Files.single, if_true, htext]
  rfl

/-- A new translator that has loaded an empty object. -/
theorem run_load_empty (l : Locale) (path : String) :
    run {} [.load (.single path "{}") l path] =
      { catalogue := [(l, [])], paths := [(l, path)] } :=
  congrArg Prod.snd (load_of_read (readFile_single_empty l path))

end Translator

namespace Command

/-- Data that are no mapping, for a locale that has no file: nothing changes. -/
theorem step_of_failure_new_locale :
    let en : Locale := { language := "en" }
    let fr : Locale := { language := "fr" }
    let t := Translator.run {} [.load (.single "en.json" "{}") en "en.json"]
    let c := Command.set fr (.array [])
    (c.step t).1 = .error (.invalidData (some fr) ⟨"", .notMapping "an array"⟩) ∧
      t.paths.has en ∧ (c.step t).2 = t := by
  intro en fr t c
  have ht : t = { catalogue := [(en, [])], paths := [(en, "en.json")] } :=
    Translator.run_load_empty en "en.json"
  rw [ht]
  have h : (c.step { catalogue := [(en, [])], paths := [(en, "en.json")] }).1 =
      .error (.invalidData (some fr) ⟨"", .notMapping "an array"⟩) := rfl
  refine ⟨h, rfl, (step_of_failure h).2.2.1.2 fun l hl => ?_⟩
  obtain ⟨rfl, hfile⟩ := hl
  cases hfile

/-- The same data for the locale that was loaded: its file is forgotten. -/
theorem failed_set_forgets_file :
    let en : Locale := { language := "en" }
    let files := Files.single "en.json" "{}"
    let t := Translator.run {} [.load files en "en.json"]
    let c := Command.set en (.array [])
    (c.step t).1 = .error (.invalidData (some en) ⟨"", .notMapping "an array"⟩) ∧
      (c.step t).2 ≠ t ∧ (t.reload files en).1 = .ok 0 ∧
      ((c.step t).2.reload files en).1 = .error (.neverLoaded en) := by
  intro en files t c
  have ht : t = { catalogue := [(en, [])], paths := [(en, "en.json")] } :=
    Translator.run_load_empty en "en.json"
  rw [ht]
  refine ⟨rfl, fun heq => ?_, ?_, rfl⟩
  · cases congrArg Translator.paths heq
  · rw [Translator.reload_of_remembered rfl,
      Translator.load_of_read (Translator.readFile_single_empty en "en.json")]
    simp [Namespace.leafKeys, Namespace.leaves]

end Command

end Phrasebook
