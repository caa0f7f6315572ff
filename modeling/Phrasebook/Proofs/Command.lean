import Phrasebook.Translator
import Phrasebook.Proofs.Locale

/-!
# Commands

**Commands** (`Command`). All that changes a translator: its settings, its data, and the files that
the data come from. A command brings the files along that it reads, because files change between
commands.

**One step** (`Command.step`). The answer to a command and the translator afterwards. For every
operation on data two equations say what it does: one for data that can be read, and one for data
that have a fault.

**Histories** (`Translator.run`). The translator that a row of commands leaves behind, each answer
aside.

Main result: `get?_run`. Commands that do not touch a locale leave its namespace as it is.
-/

namespace Phrasebook

/-- What changes a translator. -/
inductive Command where
  | configure (u : SettingsUpdate)
  | replaceSettings (s : Settings)
  | setLocale (l : Locale)
  | clearLocale
  | setPluralRule (l : Locale) (rule : PluralRule)
  | set (l : Locale) (data : Json)
  | add (l : Locale) (data : Json)
  | replaceAll (data : Json)
  | remove (l : Locale)
  | removeAll
  | load (files : Files) (l : Locale) (path : String)
  | reload (files : Files) (l : Locale)

/-! ## The operations on data -/

theorem Catalogue.ofJson_of_readNamespace {locale : Option Locale} {data : Json}
    {ns : Namespace} (h : readNamespace locale data = .ok ns) : Namespace.ofJson data = .ok ns := by
  rw [readNamespace] at h
  cases hread : Namespace.ofJson data with
  | ok ns' =>
    rw [hread] at h
    obtain rfl := Except.ok.inj h
    rfl
  | error fault =>
    rw [hread] at h
    cases h

namespace Translator

variable {t : Translator} {l : Locale} {data : Json} {files : Files} {path : String}
  {ns : Namespace} {e : LoadError}

/-- Read the namespace of a locale from a file. -/
def readFile (files : Files) (l : Locale) (path : String) : Except LoadError Namespace :=
  (readJson files path).bind (Catalogue.readNamespace (some l))

theorem set_of_read (h : Catalogue.readNamespace (some l) data = .ok ns) :
    t.set l data =
      (.ok (), { t with catalogue := t.catalogue.insert l ns, paths := t.paths.erase l }) := by
  rw [set, Catalogue.setJson, h]
  rfl

theorem set_of_fault (h : Catalogue.readNamespace (some l) data = .error e) :
    t.set l data = (.error e, { t with paths := t.paths.erase l }) := by
  rw [set, Catalogue.setJson, h]
  rfl

theorem add_of_read (h : Catalogue.readNamespace (some l) data = .ok ns) :
    t.add l data = (.ok (), { t with
      catalogue := t.catalogue.insert l (((t.catalogue.get? l).getD []).insertAll ns) }) := by
  rw [add, Catalogue.mergeJson, h]
  rfl

theorem add_of_fault (h : Catalogue.readNamespace (some l) data = .error e) :
    t.add l data = (.error e, t) := by
  rw [add, Catalogue.mergeJson, h]
  rfl

theorem load_eq (t : Translator) (files : Files) (l : Locale) (path : String) :
    t.load files l path =
      match readFile files l path with
      | .ok ns => (.ok ns.leafKeys.length,
          { t with catalogue := t.catalogue.insert l ns, paths := t.paths.insert l path })
      | .error e => (.error e, t) := by
  unfold load readFile
  cases readJson files path with
  | error e => rfl
  | ok data =>
    dsimp only [Except.bind]
    cases Catalogue.readNamespace (some l) data <;> rfl

theorem load_of_read (h : readFile files l path = .ok ns) :
    t.load files l path = (.ok ns.leafKeys.length,
      { t with catalogue := t.catalogue.insert l ns, paths := t.paths.insert l path }) := by
  rw [load_eq, h]

theorem load_of_fault (h : readFile files l path = .error e) :
    t.load files l path = (.error e, t) := by
  rw [load_eq, h]

theorem reload_of_remembered (h : t.paths.get? l = some path) :
    t.reload files l = t.load files l path := by
  rw [reload, h]

theorem reload_of_forgotten (h : t.paths.get? l = none) :
    t.reload files l = (.error (.neverLoaded l), t) := by
  rw [reload, h]

theorem replaceAll_of_read {c : Catalogue} (h : Catalogue.ofJson data = .ok c) :
    t.replaceAll data = (.ok (), { t with catalogue := c, paths := [] }) := by
  rw [replaceAll, h]

theorem replaceAll_of_fault (h : Catalogue.ofJson data = .error e) :
    t.replaceAll data = (.error e, t) := by
  rw [replaceAll, h]

/-! ## One locale at a time -/

variable {l' : Locale}

theorem get?_set (h : l' ≠ l) : (t.set l' data).2.catalogue.get? l = t.catalogue.get? l := by
  cases hr : Catalogue.readNamespace (some l') data with
  | ok ns => simp [set_of_read hr, h]
  | error e => rw [set_of_fault hr]

theorem get?_add (h : l' ≠ l) : (t.add l' data).2.catalogue.get? l = t.catalogue.get? l := by
  cases hr : Catalogue.readNamespace (some l') data with
  | ok ns => simp [add_of_read hr, h]
  | error e => rw [add_of_fault hr]

theorem get?_load (h : l' ≠ l) :
    (t.load files l' path).2.catalogue.get? l = t.catalogue.get? l := by
  cases hr : readFile files l' path with
  | ok ns => simp [load_of_read hr, h]
  | error e => rw [load_of_fault hr]

theorem get?_reload (h : l' ≠ l) :
    (t.reload files l').2.catalogue.get? l = t.catalogue.get? l := by
  cases hp : t.paths.get? l' with
  | some path => rw [reload_of_remembered hp, get?_load h]
  | none => rw [reload_of_forgotten hp]

theorem get?_remove (h : l' ≠ l) : (t.remove l').catalogue.get? l = t.catalogue.get? l :=
  Dict.get?_erase_of_ne h t.catalogue

/-- Drop what an answer says beyond success or failure. -/
def Step.done {α : Type} (x : Step α) : Step Unit :=
  (x.1.map fun _ => (), x.2)

end Translator

namespace Command

/-- Carry out a command. -/
def step (t : Translator) : Command → Translator.Step Unit
  | configure u => (.ok (), t.configure u)
  | replaceSettings s => (.ok (), { t with settings := s })
  | setLocale l => (.ok (), t.setLocale l)
  | clearLocale => (.ok (), t.clearLocale)
  | setPluralRule l rule => (.ok (), t.setPluralRule l rule)
  | set l data => t.set l data
  | add l data => t.add l data
  | replaceAll data => t.replaceAll data
  | remove l => (.ok (), t.remove l)
  | removeAll => (.ok (), t.removeAll)
  | load files l path => (t.load files l path).done
  | reload files l => (t.reload files l).done

/-- The commands that may change the namespace of a locale: those that name it, and those that
concern all locales. -/
def Touches (l : Locale) : Command → Prop
  | set l' _ | add l' _ | remove l' | load _ l' _ | reload _ l' => l' = l
  | replaceAll _ | removeAll => True
  | configure _ | replaceSettings _ | setLocale _ | clearLocale | setPluralRule _ _ => False

/-- **Frame of one step.** -/
theorem get?_step {t : Translator} {c : Command} {l : Locale} (h : ¬ c.Touches l) :
    (c.step t).2.catalogue.get? l = t.catalogue.get? l := by
  cases c with
  | configure u => rfl
  | replaceSettings s => rfl
  | setLocale l' => rfl
  | clearLocale => rfl
  | setPluralRule l' rule => rfl
  | set l' data => exact Translator.get?_set h
  | add l' data => exact Translator.get?_add h
  | replaceAll data => exact absurd trivial h
  | remove l' => exact Translator.get?_remove h
  | removeAll => exact absurd trivial h
  | load files l' path => exact Translator.get?_load h
  | reload files l' => exact Translator.get?_reload h

end Command

namespace Translator

/-- Carry out commands one after another. -/
def run (t : Translator) (cs : List Command) : Translator :=
  cs.foldl (fun t c => (c.step t).2) t

/-- **Frame of a run**: commands that touch other locales only are not seen. -/
theorem get?_run {cs : List Command} {l : Locale} (h : ∀ c ∈ cs, ¬ c.Touches l)
    (t : Translator) : (t.run cs).catalogue.get? l = t.catalogue.get? l := by
  induction cs generalizing t with
  | nil => rfl
  | cons c cs ih =>
    -- The later commands start from what the first one leaves.
    show ((c.step t).2.run cs).catalogue.get? l = t.catalogue.get? l
    rw [ih (fun c' hc => h c' (List.mem_cons_of_mem c hc)),
      Command.get?_step (h c List.mem_cons_self)]

end Translator

end Phrasebook
