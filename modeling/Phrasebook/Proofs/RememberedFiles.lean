import Phrasebook.Proofs.Command
import Phrasebook.Proofs.History

/-!
# Remembered files

**What a command does to one locale.** It loads the locale from a file (`Command.Loads`); or it lets
go of its file (`Command.Releases`), because the data no longer come from there; or it keeps the
file, and the data up to what it adds (`Command.Keeps`).

**Where the data come from** (`LoadedFrom`). The command of a history that loaded a locale last, if
nothing let go of its file since, and all that happened since.

Main result: `remembered_iff_loaded`. After any commands, successful or not and with files that
change in between, a file is remembered for a locale exactly if the data come from there: they are
what was read when the locale was last loaded, with all that was added since on top.
-/

namespace Phrasebook

open History (Event Since not_since_nil since_append_single)

variable {t : Translator} {c : Command} {l : Locale} {path : String} {ns : Namespace}

/-! ## Remembered files after one operation -/

namespace Translator

variable {l' : Locale} {data : Json} {files : Files}

@[simp] theorem paths_set (t : Translator) (l : Locale) (data : Json) :
    (t.set l data).2.paths = t.paths.erase l := by
  cases hread : Catalogue.readNamespace (some l) data with
  | ok ns => rw [set_of_read hread]
  | error e => rw [set_of_fault hread]

@[simp] theorem paths_add (t : Translator) (l : Locale) (data : Json) :
    (t.add l data).2.paths = t.paths := by
  cases hread : Catalogue.readNamespace (some l) data with
  | ok ns => rw [add_of_read hread]
  | error e => rw [add_of_fault hread]

theorem paths_load (h : l' ≠ l) :
    (t.load files l' path).2.paths.get? l = t.paths.get? l := by
  cases hread : readFile files l' path with
  | ok ns =>
    rw [load_of_read hread]
    exact Dict.get?_insert_of_ne h t.paths path
  | error e => rw [load_of_fault hread]

theorem paths_reload (h : l' ≠ l) :
    (t.reload files l').2.paths.get? l = t.paths.get? l := by
  cases hp : t.paths.get? l' with
  | some path => rw [reload_of_remembered hp, paths_load h]
  | none => rw [reload_of_forgotten hp]

end Translator

namespace Command

/-- **Frame of one step**: commands that do not touch a locale leave its file alone. -/
theorem paths_step (h : ¬ c.Touches l) : (c.step t).2.paths.get? l = t.paths.get? l := by
  cases c with
  | configure u => rfl
  | replaceSettings s => rfl
  | setLocale l' => rfl
  | clearLocale => rfl
  | setPluralRule l' rule => rfl
  | set l' data =>
    show (t.set l' data).2.paths.get? l = _
    simp [show l' ≠ l from h]
  | add l' data =>
    show (t.add l' data).2.paths.get? l = _
    simp
  | replaceAll data => exact absurd trivial h
  | remove l' => exact Dict.get?_erase_of_ne h t.paths
  | removeAll => exact absurd trivial h
  | load files l' path => exact Translator.paths_load h
  | reload files l' => exact Translator.paths_reload h

/-! ## What a command does to one locale -/

/-- A command loads the namespace `ns` of a locale from the file under a path. -/
def Loads (t : Translator) (l : Locale) (path : String) (ns : Namespace) (c : Command) : Prop :=
  (c.step t).1 = .ok () ∧ ∃ files, Translator.readFile files l path = .ok ns ∧
    (c = .load files l path ∨ c = .reload files l ∧ t.paths.get? l = some path)

/-- A command lets go of the file of a locale. Setting a namespace does so even where it fails. -/
def Releases (t : Translator) (l : Locale) : Command → Prop
  | set l' _ | remove l' => l' = l
  | replaceAll data => (t.replaceAll data).1 = .ok ()
  | removeAll => True
  | _ => False

/-- A command neither loads a locale nor lets go of its file. -/
def Keeps (t : Translator) (l : Locale) (c : Command) : Prop :=
  ¬ c.Releases t l ∧ ∀ path ns, ¬ c.Loads t l path ns

/-- What a command adds to the namespace of a locale, if it succeeds. -/
def added? (t : Translator) (l : Locale) : Command → Option Namespace
  | add l' data =>
    if l' = l ∧ (t.add l' data).1.isOk then (Namespace.ofJson data).toOption else none
  | _ => none

/-- A namespace with what a command adds to it on top. -/
def extend (t : Translator) (l : Locale) (ns : Namespace) (c : Command) : Namespace :=
  ns.insertAll ((c.added? t l).getD [])

theorem loads_load {files : Files} (h : Translator.readFile files l path = .ok ns) :
    (load files l path).Loads t l path ns := by
  refine ⟨?_, files, h, .inl rfl⟩
  show (t.load files l path).done.1 = .ok ()
  rw [Translator.load_of_read h]
  rfl

theorem loads_reload {files : Files} (hpath : t.paths.get? l = some path)
    (h : Translator.readFile files l path = .ok ns) : (reload files l).Loads t l path ns := by
  refine ⟨?_, files, h, .inr ⟨rfl, hpath⟩⟩
  show (t.reload files l).done.1 = .ok ()
  rw [Translator.reload_of_remembered hpath, Translator.load_of_read h]
  rfl

theorem step_of_loads (h : c.Loads t l path ns) :
    (c.step t).2.paths.get? l = some path ∧ (c.step t).2.catalogue.get? l = some ns := by
  have hload (files : Files) (hread : Translator.readFile files l path = .ok ns) :
      (t.load files l path).2.paths.get? l = some path ∧
        (t.load files l path).2.catalogue.get? l = some ns := by
    simp [Translator.load_of_read hread]
  obtain ⟨-, files, hread, rfl | ⟨rfl, hpath⟩⟩ := h
  · exact hload files hread
  · show (t.reload files l).2.paths.get? l = _ ∧ (t.reload files l).2.catalogue.get? l = _
    rw [Translator.reload_of_remembered hpath]
    exact hload files hread

theorem paths_of_releases (h : c.Releases t l) : (c.step t).2.paths.get? l = none := by
  cases c with
  | set l' data =>
    obtain rfl : l' = l := h
    show (t.set l' data).2.paths.get? l' = none
    simp
  | remove l' =>
    obtain rfl : l' = l := h
    exact Dict.get?_erase_self t.paths l'
  | replaceAll data =>
    show (t.replaceAll data).2.paths.get? l = none
    cases hread : Catalogue.ofJson data with
    | ok c =>
      rw [Translator.replaceAll_of_read hread]
      rfl
    | error e =>
      rw [Releases, Translator.replaceAll_of_fault hread] at h
      cases h
  | removeAll => rfl
  | _ => exact h.elim

/-! ## Keeping a file -/

theorem added?_of_fault {data : Json} {e : LoadError}
    (h : Catalogue.readNamespace (some l) data = .error e) : (add l data).added? t l = none := by
  rw [added?, Translator.add_of_fault h, if_neg (by simp [Except.isOk, Except.toBool])]

theorem added?_of_read {data : Json} (h : Catalogue.readNamespace (some l) data = .ok ns) :
    (add l data).added? t l = some ns := by
  rw [added?, Translator.add_of_read h, if_pos ⟨rfl, rfl⟩, Catalogue.ofJson_of_readNamespace h]
  rfl

theorem added?_of_not_touches (h : ¬ c.Touches l) : c.added? t l = none := by
  cases c with
  | add l' data => exact if_neg fun hadd => h hadd.1
  | _ => rfl

/-- The file and the data of a locale are the same but for what a command adds. -/
def Kept (t : Translator) (l : Locale) (c : Command) : Prop :=
  (c.step t).2.paths.get? l = t.paths.get? l ∧
    ∀ ns, t.catalogue.get? l = some ns →
      (c.step t).2.catalogue.get? l = some (c.extend t l ns)

theorem kept_of_same (hadded : c.added? t l = none)
    (hpaths : (c.step t).2.paths.get? l = t.paths.get? l)
    (hdata : (c.step t).2.catalogue.get? l = t.catalogue.get? l) : c.Kept t l := by
  refine ⟨hpaths, fun ns hns => ?_⟩
  rw [hdata, hns, extend, hadded]
  rfl

theorem kept_of_unchanged (hadded : c.added? t l = none) (h : (c.step t).2 = t) : c.Kept t l :=
  kept_of_same hadded (by rw [h]) (by rw [h])

theorem kept_add (t : Translator) (l : Locale) (data : Json) : (add l data).Kept t l := by
  cases hread : Catalogue.readNamespace (some l) data with
  | error e =>
    have hstep : (add l data).step t = (.error e, t) := Translator.add_of_fault hread
    exact kept_of_same (added?_of_fault hread) (by rw [hstep]) (by rw [hstep])
  | ok more =>
    have hstep : (add l data).step t = _ := Translator.add_of_read hread
    refine ⟨by rw [hstep], fun ns hns => ?_⟩
    rw [hstep, extend, added?_of_read hread, hns]
    exact Dict.get?_insert_self _ _ _

theorem kept_of_keeps (h : c.Keeps t l) : c.Kept t l := by
  obtain ⟨hreleases, hloads⟩ := h
  by_cases htouches : c.Touches l
  · cases c with
    | set l' data => exact absurd htouches hreleases
    | add l' data =>
      obtain rfl : l' = l := htouches
      exact kept_add t l' data
    | replaceAll data =>
      cases hread : Catalogue.ofJson data with
      | ok c => exact absurd (by rw [Releases, Translator.replaceAll_of_read hread]) hreleases
      | error e =>
        exact kept_of_unchanged rfl (congrArg Prod.snd (Translator.replaceAll_of_fault hread))
    | remove l' => exact absurd htouches hreleases
    | removeAll => exact absurd trivial hreleases
    | load files l' path =>
      obtain rfl : l' = l := htouches
      cases hread : Translator.readFile files l' path with
      | ok ns => exact absurd (loads_load hread) (hloads path ns)
      | error e =>
        exact kept_of_unchanged rfl (congrArg Prod.snd (Translator.load_of_fault hread))
    | reload files l' =>
      obtain rfl : l' = l := htouches
      cases hpath : t.paths.get? l' with
      | none =>
        exact kept_of_unchanged rfl (congrArg Prod.snd (Translator.reload_of_forgotten hpath))
      | some path =>
        -- Loading again is loading, and neither of the two changes anything when it fails.
        have hreload : t.reload files l' = t.load files l' path :=
          Translator.reload_of_remembered hpath
        cases hread : Translator.readFile files l' path with
        | ok ns => exact absurd (loads_reload hpath hread) (hloads path ns)
        | error e =>
          exact kept_of_unchanged rfl
            (congrArg Prod.snd (hreload.trans (Translator.load_of_fault hread)))
    | _ => exact htouches.elim
  · exact kept_of_same (added?_of_not_touches htouches) (paths_step htouches) (get?_step htouches)

end Command

/-! ## Where the data come from -/

namespace Translator

/-- The commands of a run, each with the translator that it met. -/
def history (t : Translator) (cs : List Command) : List (Event Translator Command) :=
  History.log (fun t c => (c.step t).2) t cs

/-- In a history, a locale was loaded last from the file under a path, and `ns` was read there;
nothing let go of the file since. -/
def LoadedFrom (l : Locale) (path : String) (ns : Namespace)
    (history since : List (Event Translator Command)) : Prop :=
  ∃ e, Since (fun e => e.command.Keeps e.state l) history e since ∧
    e.command.Loads e.state l path ns

/-- A namespace with all on top that was added to it. -/
def grown (l : Locale) (ns : Namespace) (since : List (Event Translator Command)) : Namespace :=
  since.foldl (fun ns e => e.command.extend e.state l ns) ns

/-- The remembered file of a locale is the one that its data come from. -/
structure Describes (l : Locale) (history : List (Event Translator Command)) (t : Translator) :
    Prop where
  loaded : ∀ path, t.paths.get? l = some path → ∃ ns since, LoadedFrom l path ns history since
  data : ∀ path ns since, LoadedFrom l path ns history since →
    t.paths.get? l = some path ∧ t.catalogue.get? l = some (grown l ns since)

theorem loadedFrom_append_single {history since : List (Event Translator Command)}
    {e : Event Translator Command} : LoadedFrom l path ns (history ++ [e]) since ↔
      e.command.Loads e.state l path ns ∧ since = [] ∨
      ∃ earlier, since = earlier ++ [e] ∧ e.command.Keeps e.state l ∧
        LoadedFrom l path ns history earlier := by
  constructor
  · rintro ⟨e', hsince, hloads⟩
    rcases since_append_single.1 hsince with ⟨rfl, rfl⟩ | ⟨earlier, rfl, hkeeps, hearlier⟩
    · exact .inl ⟨hloads, rfl⟩
    · exact .inr ⟨earlier, rfl, hkeeps, e', hearlier, hloads⟩
  · rintro (⟨hloads, rfl⟩ | ⟨earlier, rfl, hkeeps, e', hearlier, hloads⟩)
    · exact ⟨e, since_append_single.2 (.inl ⟨rfl, rfl⟩), hloads⟩
    · exact ⟨e', since_append_single.2 (.inr ⟨earlier, rfl, hkeeps, hearlier⟩), hloads⟩

/-- **One command more** keeps the remembered file and the data together. -/
theorem Describes.step {history : List (Event Translator Command)} (h : Describes l history t)
    (c : Command) : Describes l (history ++ [⟨t, c⟩]) (c.step t).2 where
  loaded path hpath := by
    by_cases hloads : ∃ path' ns, c.Loads t l path' ns
    · obtain ⟨path', ns, hloads⟩ := hloads
      obtain rfl : path' = path :=
        Option.some.inj ((Command.step_of_loads hloads).1.symm.trans hpath)
      exact ⟨ns, [], loadedFrom_append_single.2 (.inl ⟨hloads, rfl⟩)⟩
    · -- A file that is remembered was not let go of, so the command kept it.
      have hreleases : ¬ c.Releases t l := fun hr => by
        rw [Command.paths_of_releases hr] at hpath
        cases hpath
      have hkeeps : c.Keeps t l := ⟨hreleases, fun path' ns h => hloads ⟨path', ns, h⟩⟩
      rw [(Command.kept_of_keeps hkeeps).1] at hpath
      obtain ⟨ns, since, hfrom⟩ := h.loaded path hpath
      exact ⟨ns, _, loadedFrom_append_single.2 (.inr ⟨since, rfl, hkeeps, hfrom⟩)⟩
  data path ns since hfrom := by
    rcases loadedFrom_append_single.1 hfrom with ⟨hloads, rfl⟩ | ⟨earlier, rfl, hkeeps, hearlier⟩
    · exact Command.step_of_loads hloads
    · obtain ⟨hpath, hdata⟩ := h.data path ns earlier hearlier
      obtain ⟨hsame, hextended⟩ := Command.kept_of_keeps hkeeps
      refine ⟨hsame.trans hpath, ?_⟩
      rw [hextended _ hdata, grown, grown, List.foldl_append]
      rfl

theorem describes_run (s : Settings) (cs : List Command) (l : Locale) :
    Describes l (history { settings := s } cs) (run { settings := s } cs) := by
  refine History.log_induction (P := Describes l) ⟨fun path h => ?_, ?_⟩
    (fun history t c h => h.step c) cs
  · cases h
  · rintro path ns since ⟨e, hsince, -⟩
    exact absurd hsince not_since_nil

/-- **A remembered file describes the data.** After any commands on a new translator, a file is
remembered for a locale exactly if the locale was loaded from it and nothing let go of it since. Its
namespace is then what was read at the last loading, with all that was added since on top, and
loading it again reads that file; where no file is remembered, loading again is refused. -/
theorem remembered_iff_loaded (s : Settings) (cs : List Command) (l : Locale) :
    let t := run { settings := s } cs
    let events := history { settings := s } cs
    (∀ path, t.paths.get? l = some path ↔ ∃ ns since, LoadedFrom l path ns events since) ∧
    (∀ path ns since, LoadedFrom l path ns events since →
      t.catalogue.get? l = some (grown l ns since) ∧
        ∀ files, t.reload files l = t.load files l path) ∧
    (t.paths.get? l = none → ∀ files, t.reload files l = (.error (.neverLoaded l), t)) := by
  intro t events
  have h : Describes l events t := describes_run s cs l
  refine ⟨fun path => ⟨h.loaded path, ?_⟩, fun path ns since hfrom => ?_, fun hnone files => ?_⟩
  · rintro ⟨ns, since, hfrom⟩
    exact (h.data path ns since hfrom).1
  · obtain ⟨hpath, hdata⟩ := h.data path ns since hfrom
    exact ⟨hdata, fun files => reload_of_remembered hpath⟩
  · exact reload_of_forgotten hnone

/-- A failed loading from another file, an addition, and a refused replacement of everything. -/
example :
    let en : Locale := { language := "en" }
    let files : Files :=
      { read := fun p => if p = "en.json" then .ok "\x7b\"a\":\"A\"\x7d" else .error .notFound
        has := fun p => p = "en.json" }
    let t := run {} [.load files en "en.json", .load files en "none.json",
      .add en (.object [("b", .string "B")]), .replaceAll (.array [])]
    t.paths.get? en = some "en.json" ∧
      t.catalogue.get? en = some [("a", .text "A"), ("b", .text "B")] := by
  cbv

end Translator

end Phrasebook
