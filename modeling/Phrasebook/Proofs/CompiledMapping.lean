import Phrasebook.Speech.Mapping

/-!
# Compiled mappings

What compiling accepts, and what comes out of it.

**Words.** The units, teens and tens are those of the data, and there are as many as a mapping needs.

**Rules** (`Rule.Closed`). Every rule of the data is compiled, and a replacement names only groups
that its pattern has.

Main results: `Mapping.compile_eq_ok` and `Mapping.renders_of_compile`.
-/

namespace Phrasebook.Speech

/-- A computation succeeds if its first part does, and then the rest. -/
theorem bind_eq_ok {ε α β : Type} {x : Except ε α} {f : α → Except ε β} {b : β}
    (h : x >>= f = .ok b) : ∃ a, x = .ok a ∧ f a = .ok b := by
  cases x with
  | error e => cases h
  | ok a => exact ⟨a, rfl, h⟩

theorem map_eq_ok {ε α β : Type} {x : Except ε α} {f : α → β} {b : β}
    (h : x.map f = .ok b) : ∃ a, x = .ok a ∧ f a = b := by
  cases x with
  | error e => cases h
  | ok a => exact ⟨a, rfl, Except.ok.inj h⟩

/-! ## Rules -/

/-- A group that a part names is one of `groups` groups, or the whole match. -/
def Part.Within (groups : Nat) : Part → Prop
  | char _ => True
  | group n => n ≤ groups

theorem Template.within_of_map_cons {groups : Nat} {part : Part} {rest : Except RuleProblem Template}
    {t : Template} (h : rest.map (part :: ·) = .ok t) (hpart : part.Within groups)
    (hrest : ∀ {t}, rest = .ok t → ∀ p ∈ t, p.Within groups) : ∀ p ∈ t, p.Within groups := by
  obtain ⟨more, hmore, rfl⟩ := map_eq_ok h
  exact List.forall_mem_cons.2 ⟨hpart, hrest hmore⟩

/-- **A template names only groups that are there.** -/
theorem Template.within_of_read {groups : Nat} {cs : List Char} {t : Template}
    (h : Template.read groups cs = .ok t) : ∀ p ∈ t, p.Within groups := by
  -- One digit is taken for a group only if there is a group of that number.
  have hsingle {n : Nat} {rest : List Char} {t : Template}
      (h : (if 1 ≤ n ∧ n ≤ groups then (read groups rest).map (.group n :: ·)
        else .error (.missingGroup n groups)) = .ok t)
      (ih : ∀ {t}, read groups rest = .ok t → ∀ p ∈ t, p.Within groups) :
      ∀ p ∈ t, p.Within groups := by
    split at h
    · next hn => exact within_of_map_cons h hn.2 ih
    · cases h
  fun_induction Template.read groups cs generalizing t
  case case1 =>
    cases h
    nofun
  case case2 =>
    cases h
    simp [Part.Within]
  case case4 ih => exact within_of_map_cons h (Nat.zero_le groups) ih
  case case5 ih | case7 ih => exact hsingle h ih
  case case6 htwo _ ih => exact within_of_map_cons h htwo.2.2 ih
  case case3 ih | case8 ih | case9 ih => exact within_of_map_cons h trivial ih

/-- The groups that the replacement of a rule names are groups of its pattern. -/
def Rule.Closed : Rule → Prop
  | replace pattern template => ∀ p ∈ template, p.Within pattern.groups
  | insert .. => True

theorem Rule.closed_of_compile {data : RuleData} {r : Rule} (h : Rule.compile data = .ok r) :
    r.Closed := by
  cases data with
  | replace pattern replacement =>
    obtain ⟨regex, -, h⟩ := bind_eq_ok h
    obtain ⟨template, htemplate, h⟩ := bind_eq_ok h
    cases h
    exact Template.within_of_read htemplate
  | insert pattern insertion position =>
    obtain ⟨regex, -, h⟩ := bind_eq_ok h
    cases h
    trivial

namespace Mapping

variable {key : String} {d : MappingData} {m : Mapping}

theorem compile_of_mem_compileRules {index : Nat} {data : List RuleData} {rules : List Rule}
    (h : compileRules key index data = .ok rules) {r : Rule} (hr : r ∈ rules) :
    ∃ source ∈ data, Rule.compile source = .ok r := by
  induction data generalizing index rules with
  | nil =>
    cases h
    cases hr
  | cons source rest ih =>
    rw [compileRules] at h
    cases hcompile : Rule.compile source with
    | error problem =>
      rw [hcompile] at h
      cases h
    | ok rule =>
      rw [hcompile] at h
      obtain ⟨more, hmore, h⟩ := bind_eq_ok h
      cases h
      rcases List.mem_cons.1 hr with rfl | hr
      · exact ⟨source, List.mem_cons_self, hcompile⟩
      · obtain ⟨source', hsource', hcompile'⟩ := ih hmore hr
        exact ⟨source', List.mem_cons_of_mem _ hsource', hcompile'⟩

/-! ## Words -/

theorem toList_of_checkCount {field : String} {words : List String} {n : Nat}
    {v : Vector String n} (h : checkCount key field words n = .ok v) : v.toList = words := by
  unfold checkCount at h
  split at h
  · cases h
    rfl
  · cases h

/-- **What compiling does**: the three lists are counted and the rules compiled, and the other words
are those of the data. -/
theorem exists_of_compile (h : compile key d = .ok m) :
    ∃ units teens tens rules,
      checkCount key "units" d.units unitCount = .ok units ∧
      checkCount key "teens" d.teens teenCount = .ok teens ∧
      checkCount key "tens" d.tens tensCount = .ok tens ∧
      compileRules key 0 d.rules = .ok rules ∧
      m = { key, rules, words := { d with units, teens, tens } } := by
  obtain ⟨units, hunits, h⟩ := bind_eq_ok h
  obtain ⟨teens, hteens, h⟩ := bind_eq_ok h
  obtain ⟨tens, htens, h⟩ := bind_eq_ok h
  obtain ⟨rules, hrules, h⟩ := bind_eq_ok h
  exact ⟨units, teens, tens, rules, hunits, hteens, htens, hrules, (Except.ok.inj h).symm⟩

/-- **What compiling gives**: the words of the data, as many of them as are needed, and the rules
compiled. -/
theorem compile_eq_ok (h : compile key d = .ok m) :
    m.key = key ∧ m.words.units.toList = d.units ∧ m.words.teens.toList = d.teens ∧
      m.words.tens.toList = d.tens ∧ compileRules key 0 d.rules = .ok m.rules := by
  obtain ⟨units, teens, tens, rules, hunits, hteens, htens, hrules, rfl⟩ := exists_of_compile h
  exact ⟨rfl, toList_of_checkCount hunits, toList_of_checkCount hteens, toList_of_checkCount htens,
    hrules⟩

/-- The words that stand in no list come out of compiling as they are. -/
theorem single_words_of_compile (h : compile key d = .ok m) :
    m.words.negative = d.negative ∧ m.words.hundred = d.hundred ∧
      m.words.thousand = d.thousand ∧ m.words.million = d.million := by
  obtain ⟨units, teens, tens, rules, -, -, -, -, rfl⟩ := exists_of_compile h
  exact ⟨rfl, rfl, rfl, rfl⟩

/-- A mapping has the words of its data, as many as it needs, and its replacements name only groups
of their patterns. -/
structure Renders (d : MappingData) (m : Mapping) : Prop where
  units : m.words.units.toList = d.units
  teens : m.words.teens.toList = d.teens
  tens : m.words.tens.toList = d.tens
  length_units : d.units.length = unitCount
  length_teens : d.teens.length = teenCount
  length_tens : d.tens.length = tensCount
  closed : ∀ rule ∈ m.rules, rule.Closed

theorem renders_of_compile (h : compile key d = .ok m) : Renders d m := by
  obtain ⟨-, hunits, hteens, htens, hrules⟩ := compile_eq_ok h
  refine ⟨hunits, hteens, htens, ?_, ?_, ?_, fun rule hrule => ?_⟩
  · rw [← hunits, Vector.length_toList]
  · rw [← hteens, Vector.length_toList]
  · rw [← htens, Vector.length_toList]
  · obtain ⟨source, -, hsource⟩ := compile_of_mem_compileRules hrules hrule
    exact Rule.closed_of_compile hsource

end Mapping

end Phrasebook.Speech
