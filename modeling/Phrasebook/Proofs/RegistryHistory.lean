import Mathlib.Data.String.Basic
import Phrasebook.Proofs.CompiledMapping
import Phrasebook.Proofs.EnglishRules
import Phrasebook.Proofs.History

/-!
# What a registry holds

**Calls** (`Registry.Call`). All that changes a registry: a mapping is loaded from data, from JSON or
from a file, or it is removed. A call stores a compiled mapping under its key, or removes what is
there, or fails and changes nothing (`Call.step_cases`).

**What stands under a key** (`Registry.Stands`). The data of the last call that loaded a mapping
under the key, or else the data that the registry began with, if the mapping was not removed since.

Main result: `registry_history`. After any calls, successful or not, a registry holds under each key
the compiled data that stand there, and nothing else.
-/

namespace Phrasebook.Speech

open History (Event Since not_since_nil since_append_single)

namespace Registry

/-- What changes a registry. -/
inductive Call where
  | load (key : String) (d : MappingData)
  | loadJson (key text : String)
  | loadFile (files : Files) (key path : String)
  | remove (key : String)

/-- Take over a changed registry, or pass the error on and change nothing. -/
def store (r : Registry) : Except LoadError Registry → Except LoadError Unit × Registry
  | .ok r' => (.ok (), r')
  | .error e => (.error e, r)

namespace Call

/-- The key that a call is about. -/
def key : Call → String
  | load key _ | loadJson key _ | loadFile _ key _ | remove key => key

variable {r : Registry} {c : Call} {key : String} {d : MappingData} {m : Mapping}

/-- Carry out a call. -/
def step (r : Registry) : Call → Except LoadError Unit × Registry
  | load key d => r.store (r.load key d)
  | loadJson key text => r.store (r.loadJson key text)
  | loadFile files key path => r.store (r.loadFile files key path)
  | remove key => (.ok (), r.erase key)

/-- A call is to load the data `d`. -/
def Brings (d : MappingData) : Call → Prop
  | load _ d' => d' = d
  | loadJson _ text => MappingData.ofText text = .ok d
  | loadFile files _ path => ∃ text, files.read path = .ok text ∧ MappingData.ofText text = .ok d
  | remove _ => False

/-- A call loads the data `d` under a key. -/
def Loads (r : Registry) (key : String) (d : MappingData) (c : Call) : Prop :=
  (c.step r).1 = .ok () ∧ c.key = key ∧ c.Brings d

/-- A call neither loads a mapping under a key nor removes it from there. -/
def Keeps (r : Registry) (key : String) (c : Call) : Prop :=
  c ≠ .remove key ∧ ∀ d, ¬ c.Loads r key d

/-! ## What a call does -/

theorem brings_unique {d' : MappingData} (h : c.Brings d) (h' : c.Brings d') : d = d' := by
  cases c with
  | load key d₀ => exact h.symm.trans h'
  | loadJson key text => exact Except.ok.inj (h.symm.trans h')
  | loadFile files key path =>
    obtain ⟨text, htext, hread⟩ := h
    obtain ⟨text', htext', hread'⟩ := h'
    obtain rfl := Except.ok.inj (htext.symm.trans htext')
    exact Except.ok.inj (hread.symm.trans hread')
  | remove key => exact h.elim

theorem step_of_brings (h : c.Brings d) (r : Registry) :
    c.step r = r.store (r.load c.key d) := by
  cases c with
  | load key d' =>
    obtain rfl : d' = d := h
    rfl
  | loadJson key text =>
    have hread : MappingData.ofText text = .ok d := h
    rw [step, Registry.loadJson, loadText, hread]
    rfl
  | loadFile files key path =>
    obtain ⟨text, htext, hread⟩ := h
    rw [step, Registry.loadFile, htext]
    dsimp only
    rw [loadText, hread]
    rfl
  | remove key => exact h.elim

theorem fails_of_brings_nothing (hc : c ≠ .remove c.key) (h : ∀ d, ¬ c.Brings d) (r : Registry) :
    ∃ e, c.step r = (.error e, r) := by
  have htext {key path text : String} (h : ∀ d, MappingData.ofText text ≠ .ok d) :
      ∃ e, r.store (r.loadText key path text) = (.error e, r) := by
    rw [loadText]
    cases hread : MappingData.ofText text with
    | ok d => exact absurd hread (h d)
    | error e => exact ⟨_, rfl⟩
  cases c with
  | load key d => exact absurd rfl (h d)
  | loadJson key text => exact htext h
  | loadFile files key path =>
    rw [step, Registry.loadFile]
    cases hfile : files.read path with
    | error cause => exact ⟨_, rfl⟩
    | ok text => exact htext fun d hread => h d ⟨text, hfile, hread⟩
  | remove key => exact absurd rfl hc

/-- **What a call can do**: remove a mapping, store what it brings, or fail and change nothing. -/
theorem step_cases (r : Registry) (c : Call) :
    c = .remove c.key ∧ c.step r = (.ok (), r.erase c.key) ∨
    (∃ d m, c.Brings d ∧ Mapping.compile c.key d = .ok m ∧
      c.step r = (.ok (), r.insert c.key m)) ∨
    c ≠ .remove c.key ∧ ∃ e, c.step r = (.error e, r) := by
  by_cases hremove : c = .remove c.key
  · refine .inl ⟨hremove, ?_⟩
    rw [hremove]
    rfl
  by_cases hbrings : ∃ d, c.Brings d
  · obtain ⟨d, hd⟩ := hbrings
    rw [step_of_brings hd, Registry.load]
    cases hcompile : Mapping.compile c.key d with
    | ok m => exact .inr (.inl ⟨d, m, hd, hcompile, rfl⟩)
    | error e => exact .inr (.inr ⟨hremove, e, rfl⟩)
  · exact .inr (.inr ⟨hremove, fails_of_brings_nothing hremove (not_exists.1 hbrings) r⟩)

theorem step_of_error {e : LoadError} (h : (c.step r).1 = .error e) : (c.step r).2 = r := by
  rcases step_cases r c with ⟨-, hstep⟩ | ⟨d, m, -, -, hstep⟩ | ⟨-, e', hstep⟩
  · rw [hstep] at h
    cases h
  · rw [hstep] at h
    cases h
  · rw [hstep]

/-- **Frame of one call**: what stands under other keys stays. -/
theorem get?_step_of_ne (h : c.key ≠ key) : (c.step r).2.get? key = r.get? key := by
  rcases step_cases r c with ⟨-, hstep⟩ | ⟨d, m, -, -, hstep⟩ | ⟨-, e, hstep⟩
  · simp [hstep, h]
  · simp [hstep, h]
  · rw [hstep]

theorem get?_step_of_loads (h : c.Loads r key d) :
    ∃ m, Mapping.compile key d = .ok m ∧ (c.step r).2.get? key = some m := by
  obtain ⟨hok, rfl, hbrings⟩ := h
  rcases step_cases r c with ⟨hremove, -⟩ | ⟨d', m, hbrings', hcompile, hstep⟩ | ⟨-, e, hstep⟩
  · rw [hremove] at hbrings
    exact hbrings.elim
  · obtain rfl := brings_unique hbrings hbrings'
    exact ⟨m, hcompile, by simp [hstep]⟩
  · rw [hstep] at hok
    cases hok

theorem get?_step_of_keeps (h : c.Keeps r key) : (c.step r).2.get? key = r.get? key := by
  -- What the call does under its own key is neither to remove nor to load, so it failed.
  by_cases hkey : c.key = key
  · rcases step_cases r c with ⟨hremove, -⟩ | ⟨d, m, hbrings, -, hstep⟩ | ⟨-, e, hstep⟩
    · exact absurd (hkey ▸ hremove) h.1
    · exact absurd ⟨by rw [hstep], hkey, hbrings⟩ (h.2 d)
    · rw [hstep]
  · exact get?_step_of_ne hkey

theorem ordered_step (h : Dict.Ordered r) (c : Call) : Dict.Ordered (c.step r).2 := by
  rcases step_cases r c with ⟨-, hstep⟩ | ⟨d, m, -, -, hstep⟩ | ⟨-, e, hstep⟩
  · rw [hstep]
    exact Dict.ordered_erase h c.key
  · rw [hstep]
    exact Dict.ordered_insert h c.key m
  · rwa [hstep]

end Call

/-! ## What a registry begins with -/

/-- What a registry begins with. -/
inductive Start where
  | standard
  | empty

namespace Start

/-- The registry at the start. -/
def registry : Start → Registry
  | standard => Registry.standard
  | empty => []

/-- The data that are built in. -/
def data : Start → Dict String MappingData
  | standard => [(English.americanKey, English.american), (English.britishKey, English.british)]
  | empty => []

/-- Both English mappings compile, and they are what the standard registry holds. -/
theorem standard_eq : ∃ americanMapping britishMapping,
    Mapping.compile English.americanKey English.american = .ok americanMapping ∧
    Mapping.compile English.britishKey English.british = .ok britishMapping ∧
    Registry.standard = (Dict.insert [] English.americanKey americanMapping).insert
      English.britishKey britishMapping := by
  obtain ⟨americanRules, hamerican, -⟩ := English.compileRules_american
  obtain ⟨britishRules, hbritish, -⟩ := English.compileRules_british
  exact ⟨_, _, English.compile_mapping hamerican, English.compile_mapping hbritish,
    English.standard_of_compileRules hamerican hbritish⟩

theorem ordered_registry (start : Start) : Dict.Ordered start.registry := by
  cases start with
  | standard =>
    obtain ⟨_, _, -, -, hstandard⟩ := standard_eq
    show Dict.Ordered Registry.standard
    rw [hstandard]
    exact Dict.ordered_insert (Dict.ordered_insert .nil _ _) _ _
  | empty => exact .nil

/-- **At the start** the built-in data, and nothing else, are registered; all of them compile. -/
theorem registry_spec (start : Start) (key : String) :
    (∀ d, start.data.get? key = some d →
      ∃ m, Mapping.compile key d = .ok m ∧ start.registry.get? key = some m) ∧
    (start.data.get? key = none → start.registry.get? key = none) := by
  cases start with
  | standard =>
    obtain ⟨_, _, hamerican, hbritish, hstandard⟩ := standard_eq
    rw [registry, data, hstandard, Dict.get?_insert, Dict.get?_insert, Dict.get?, Dict.get?,
      Dict.get?, Dict.get?]
    -- A key is one of the two, or neither data nor a mapping stand under it.
    by_cases ha : English.americanKey = key
    · subst ha
      rw [if_pos rfl, if_pos rfl, if_neg (by decide)]
      refine ⟨fun d hd => ?_, fun hnone => by cases hnone⟩
      obtain rfl := Option.some.inj hd
      exact ⟨_, hamerican, rfl⟩
    rw [if_neg ha, if_neg ha]
    by_cases hb : English.britishKey = key
    · subst hb
      rw [if_pos rfl, if_pos rfl]
      refine ⟨fun d hd => ?_, fun hnone => by cases hnone⟩
      obtain rfl := Option.some.inj hd
      exact ⟨_, hbritish, rfl⟩
    · rw [if_neg hb, if_neg hb]
      exact ⟨fun d hd => (by cases hd), fun _ => rfl⟩
  | empty => exact ⟨fun d hd => (by cases hd), fun _ => rfl⟩

end Start

/-! ## What stands under a key -/

/-- Carry out calls from left to right, whether they succeed or not. -/
def run (start : Start) (cs : List Call) : Registry :=
  cs.foldl (fun r c => (c.step r).2) start.registry

/-- The calls of a run, each with the registry that it met. -/
def history (start : Start) (cs : List Call) : List (Event Registry Call) :=
  History.log (fun r c => (c.step r).2) start.registry cs

/-- In a history, the data `d` were loaded last under a key, or they are built in and no others were
loaded there; the mapping was not removed since. -/
def Stands (start : Start) (key : String) (d : MappingData)
    (past : List (Event Registry Call)) : Prop :=
  (∃ e since, Since (fun e => e.command.Keeps e.state key) past e since ∧
    e.command.Loads e.state key d) ∨
  start.data.get? key = some d ∧ ∀ e ∈ past, e.command.Keeps e.state key

variable {start : Start} {key : String} {d : MappingData} {r : Registry}
  {past : List (Event Registry Call)}

theorem stands_append_single {e : Event Registry Call} :
    Stands start key d (past ++ [e]) ↔
      e.command.Loads e.state key d ∨ e.command.Keeps e.state key ∧ Stands start key d past := by
  constructor
  · rintro (⟨e', since, hsince, hloads⟩ | ⟨hdata, hkeeps⟩)
    · rcases since_append_single.1 hsince with ⟨rfl, -⟩ | ⟨earlier, -, hkeeps, hearlier⟩
      · exact .inl hloads
      · exact .inr ⟨hkeeps, .inl ⟨e', earlier, hearlier, hloads⟩⟩
    · exact .inr ⟨hkeeps e (by simp), .inr ⟨hdata, fun e' he' => hkeeps e' (by simp [he'])⟩⟩
  · rintro (hloads | ⟨hkeeps, ⟨e', earlier, hearlier, hloads⟩ | ⟨hdata, hall⟩⟩)
    · exact .inl ⟨e, [], since_append_single.2 (.inl ⟨rfl, rfl⟩), hloads⟩
    · exact .inl ⟨e', earlier ++ [e],
        since_append_single.2 (.inr ⟨earlier, rfl, hkeeps, hearlier⟩), hloads⟩
    · refine .inr ⟨hdata, fun e' he' => ?_⟩
      rcases List.mem_append.1 he' with he' | he'
      · exact hall e' he'
      · exact List.mem_singleton.1 he' ▸ hkeeps

/-- A registry holds, under one key, what stands there after a history. -/
structure Reflects (start : Start) (key : String) (past : List (Event Registry Call))
    (r : Registry) : Prop where
  compiled : ∀ d, Stands start key d past →
    ∃ m, Mapping.compile key d = .ok m ∧ r.get? key = some m
  stands : ∀ m, r.get? key = some m → ∃ d, Stands start key d past

theorem reflects_nil (start : Start) (key : String) : Reflects start key [] start.registry := by
  obtain ⟨hcompiled, hnone⟩ := start.registry_spec key
  constructor
  · rintro d (⟨e, since, hsince, -⟩ | ⟨hdata, -⟩)
    · exact absurd hsince not_since_nil
    · exact hcompiled d hdata
  · intro m hm
    cases hdata : start.data.get? key with
    | some d => exact ⟨d, .inr ⟨hdata, nofun⟩⟩
    | none =>
      rw [hnone hdata] at hm
      cases hm

/-- **One call more** keeps what is registered and what stands together. -/
theorem Reflects.step (h : Reflects start key past r) (c : Call) :
    Reflects start key (past ++ [⟨r, c⟩]) (c.step r).2 where
  compiled d hstands := by
    rcases stands_append_single.1 hstands with hloads | ⟨hkeeps, hbefore⟩
    · exact Call.get?_step_of_loads hloads
    · rw [Call.get?_step_of_keeps hkeeps]
      exact h.compiled d hbefore
  stands m hm := by
    by_cases hloads : ∃ d, c.Loads r key d
    · obtain ⟨d, hloads⟩ := hloads
      exact ⟨d, stands_append_single.2 (.inl hloads)⟩
    · -- What is registered after the call was not removed by it, so it was there before.
      have hremove : c ≠ .remove key := by
        rintro rfl
        simp [Call.step] at hm
      have hkeeps : c.Keeps r key := ⟨hremove, not_exists.1 hloads⟩
      rw [Call.get?_step_of_keeps hkeeps] at hm
      obtain ⟨d, hd⟩ := h.stands m hm
      exact ⟨d, stands_append_single.2 (.inr ⟨hkeeps, hd⟩)⟩

theorem reflects_run (start : Start) (cs : List Call) (key : String) :
    Reflects start key (history start cs) (run start cs) :=
  History.log_induction (P := Reflects start key) (reflects_nil start key)
    (fun _ _ c h => h.step c) cs

theorem ordered_run (start : Start) (cs : List Call) : Dict.Ordered (run start cs) :=
  History.log_induction (P := fun _ r => Dict.Ordered r) start.ordered_registry
    (fun _ _ c h => Call.ordered_step h c) cs

/-! ## What is registered -/

theorem has_iff : r.has key ↔ ∃ m, r.get? key = some m :=
  Option.isSome_iff_exists

theorem mem_keys_iff : key ∈ r.keys ↔ r.has key := by
  rw [← not_iff_not, ← Dict.get?_eq_none_iff, Dict.has, Option.not_isSome_iff_eq_none]

theorem keys_increase (h : Dict.Ordered r) : r.keys.Pairwise (· < ·) :=
  List.pairwise_map.2 (h.imp compare_lt_iff_lt.1)

theorem speak_of_get? {m : Mapping} (h : r.get? key = some m) (n : Int64) :
    r.speak n key = m.speak n := by
  rw [speak, h]

theorem speak_of_not_has (h : ¬ r.has key) (n : Int64) :
    r.speak n key = .error (.unknownVocabulary key r.keys) := by
  rw [Dict.has, Option.not_isSome_iff_eq_none] at h
  rw [speak, h]

/-- **A registry and its history.** After any calls, of which a failed one changes nothing, the keys
are in increasing order, and exactly those are registered under which data stand: built in or
loaded, and not removed since. A number is spoken with the mapping compiled from these data, and no
call about another key changes that; under a key that is not registered, the error lists those that
are. Every registered mapping has all its words, and its replacements name only groups that there
are. -/
theorem registry_history (start : Start) (cs : List Call) :
    let r := run start cs
    let events := history start cs
    (∀ (c : Call) (e : LoadError), (c.step r).1 = .error e → (c.step r).2 = r) ∧
    (∀ key, r.has key ↔ ∃ d, Stands start key d events) ∧
    (r.keys.Pairwise (· < ·) ∧ ∀ key, key ∈ r.keys ↔ r.has key) ∧
    (∀ key d, Stands start key d events →
      ∃ m, Mapping.compile key d = .ok m ∧ ∀ n, r.speak n key = m.speak n) ∧
    (∀ key (c : Call) n, c.key ≠ key → r.has key → (c.step r).2.speak n key = r.speak n key) ∧
    (∀ key n, ¬ r.has key → r.speak n key = .error (.unknownVocabulary key r.keys)) ∧
    ∀ key m, r.get? key = some m → ∃ d, Stands start key d events ∧ Mapping.Renders d m := by
  intro r events
  -- All but the first and the order of the keys follows from what a run keeps for each key.
  have h (key : String) : Reflects start key events r := reflects_run start cs key
  refine ⟨fun c e => Call.step_of_error, fun key => ?_, ⟨keys_increase (ordered_run start cs),
    fun key => mem_keys_iff⟩, fun key d hd => ?_, fun key c n hne hkey => ?_, fun key n hkey =>
    speak_of_not_has hkey n, fun key m hm => ?_⟩
  · rw [has_iff]
    constructor
    · rintro ⟨m, hm⟩
      exact (h key).stands m hm
    · rintro ⟨d, hd⟩
      obtain ⟨m, -, hm⟩ := (h key).compiled d hd
      exact ⟨m, hm⟩
  · obtain ⟨m, hcompile, hm⟩ := (h key).compiled d hd
    exact ⟨m, hcompile, speak_of_get? hm⟩
  · obtain ⟨m, hm⟩ := has_iff.1 hkey
    rw [speak_of_get? hm, speak_of_get? ((Call.get?_step_of_ne hne).trans hm)]
  · obtain ⟨d, hd⟩ := (h key).stands m hm
    obtain ⟨m', hcompile, hm'⟩ := (h key).compiled d hd
    obtain rfl := Option.some.inj (hm.symm.trans hm')
    exact ⟨d, hd, Mapping.renders_of_compile hcompile⟩

/-- An object without words and a mapping without units are refused, and nothing is lost. -/
example :
    let r := run .empty [.load "en" (English.mapping []), .loadJson "en" "\x7b\x7d",
      .load "xx" { English.mapping [] with units := [] }, .remove "xx",
      .load "de" { English.mapping [] with zero := "null" }]
    r.keys = ["de", "en"] ∧ r.speak 0 "de" = .ok "null" ∧ r.speak 0 "en" = .ok "zero" := by
  cbv

end Registry

end Phrasebook.Speech
