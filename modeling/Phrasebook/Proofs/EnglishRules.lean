import Mathlib
import Phrasebook.Proofs.HeadedProgram
import Phrasebook.Proofs.SpokenNumber
import Phrasebook.Speech.Registry

/-!
# The English rules

**Rules as rewriting** (`Rule.Does`). All four rules have a pattern with a head: words for tens, the
word for hundred, and twice the words for thousand and million. The pattern and the template
together rewrite the front of a phrase.

**Phrases in order** (`Polished`). The rules of a mapping are applied one after another.

Main result: `standard_mappings`. The English mappings have the English number words, and their
rules do what these rewritings say.
-/

namespace Phrasebook.Speech

open Regex

/-! ## Rules -/

/-- A rule rewrites tidy phrases. -/
def Rule.Does (r : Rule) (f : Rewriter) : Prop :=
  ∀ cs ds, Tidy cs → Rewritten f cs ds → r.applyTo? cs = some ds

/-- A rule that writes the two groups of a match with something between and behind them. -/
def Rule.joining (method : Method) (groups : Nat) (source : String) (joint close : List Char) :
    Rule :=
  .replace ⟨method, groups, false, source⟩
    (.group 1 :: joint.map .char ++ .group 2 :: close.map .char)

theorem Template.expand_joining (joint close : List Char) (caps : Captures) :
    Template.expand (.group 1 :: joint.map .char ++ .group 2 :: close.map .char) caps =
      writeHeaded joint close caps := by
  have hchars (cs : List Char) : (cs.map Part.char).flatMap (Template.expandPart caps) = cs := by
    rw [List.flatMap_map]
    exact List.flatMap_singleton' cs
  simp [Template.expand, Template.expandPart, writeHeaded, hchars]

variable {method : Method} {groups : Nat} {source : String} {joint close : List Char} {f : Rewriter}

theorem Rule.does_joining
    (h : Reads ⟨method, groups, false, source⟩ (writeHeaded joint close) Tidy f) :
    (Rule.joining method groups source joint close).Does f := by
  intro cs ds htidy hrewritten
  have hreplacement : (Rule.joining method groups source joint close).replacement =
      fun hit => writeHeaded joint close hit.caps := by
    funext hit
    exact Template.expand_joining joint close hit.caps
  rw [applyTo?, hreplacement]
  exact replaceAll?_of_rewritten h (fun _ _ => Tidy.tail) hrewritten htidy

/-- A rule compiles, and it rewrites tidy phrases. -/
def Rule.Compiles (data : RuleData) (f : Rewriter) : Prop :=
  ∃ r, Rule.compile data = .ok r ∧ r.Does f

theorem Rule.compiles_joining {data : RuleData}
    (hcompile : Rule.compile data = .ok (.joining method groups source joint close))
    (h : Reads ⟨method, groups, false, source⟩ (writeHeaded joint close) Tidy f) :
    Compiles data f :=
  ⟨_, hcompile, Rule.does_joining h⟩

theorem Mapping.compileRules_of_compiles {key : String} {index : Nat} {data : List RuleData}
    {fs : List Rewriter} (h : List.Forall₂ Rule.Compiles data fs) :
    ∃ rules, Mapping.compileRules key index data = .ok rules ∧ List.Forall₂ Rule.Does rules fs := by
  induction h generalizing index with
  | nil => exact ⟨[], rfl, .nil⟩
  | cons hrule _ ih =>
    obtain ⟨r, hcompile, hdoes⟩ := hrule
    obtain ⟨rules, hrules, hall⟩ := @ih (index + 1)
    refine ⟨r :: rules, ?_, .cons hdoes hall⟩
    rw [compileRules, hcompile, hrules]
    rfl

/-- A text becomes another one by rewriting it in several ways, one after another. -/
inductive Polished : List Rewriter → List Char → List Char → Prop
  | nil (cs : List Char) : Polished [] cs cs
  | cons {f : Rewriter} {fs : List Rewriter} {cs ds es : List Char} :
      Tidy cs → Rewritten f cs ds → Polished fs ds es → Polished (f :: fs) cs es

theorem Mapping.applyFrom_of_polished {key : String} {index : Nat} {rules : List Rule}
    {fs : List Rewriter} {cs ds : List Char} (hrules : List.Forall₂ Rule.Does rules fs)
    (h : Polished fs cs ds) : Mapping.applyFrom key index rules cs = .ok ds := by
  induction hrules generalizing cs index with
  | nil =>
    cases h
    rfl
  | cons hrule _ ih =>
    cases h with
    | cons htidy hrewritten hrest =>
      rw [applyFrom, hrule _ _ htidy hrewritten]
      exact ih hrest

namespace English

/-! ## Words -/

/-- The English number words. -/
def vocabulary : Vocabulary where
  negative := (mapping []).negative
  zero := (mapping []).zero
  units := ⟨(mapping []).units.toArray, rfl⟩
  teens := ⟨(mapping []).teens.toArray, rfl⟩
  tens := ⟨(mapping []).tens.toArray, rfl⟩
  hundred := (mapping []).hundred
  thousand := (mapping []).thousand
  million := (mapping []).million

theorem clear_vocabulary : vocabulary.Clear := by
  constructor <;> decide

/-- The letters of a number word. -/
def spell (w : NumberWord) : List Char :=
  (w.inWords vocabulary).toList

/-- The words for the tens. -/
def tensWords : List (List Char) :=
  (List.range' 2 tensCount).map fun digit => spell (.ten digit)

/-- The words for the units. -/
def unitWords : List (List Char) :=
  (List.range' 1 unitCount).map fun digit => spell (.unit digit)

/-- The words for thousand and million. -/
def scaleWords : List (List Char) :=
  [spell .thousand, spell .million]

/-! ## What the rules write -/

/-- Tens and a unit with a hyphen. -/
def hyphenRewriter : Rewriter :=
  headedRewriter tensWords ['-'] [] (firstWord unitWords)

/-- A hundred and a word with `and`. -/
def hundredRewriter : Rewriter :=
  headedRewriter [spell .hundred] " and ".toList [] letterRow

/-- A scale and a word with a comma, if a blank follows. -/
def commaRewriter : Rewriter :=
  headedRewriter scaleWords [',', ' '] [' '] Program.spacedRow

/-- A scale and a word with `and`. -/
def scaleRewriter : Rewriter :=
  headedRewriter scaleWords " and ".toList [] letterRow

/-! ## What the rules do -/

/-- A row of letters as group 2, at the end of a pattern. -/
def letterEnding : Simple :=
  .seq (.group 2 (.many Simple.letters)) .empty

/-- What must not follow in the third rule. Its first blank comes behind a blank. -/
def unwanted : Plain :=
  (Simple.seq (.set (.single ' '))
    (.seq (.group 3 (.oneOf (spell .hundred :: scaleWords))) .empty)).toPlain 0

set_option maxRecDepth 10000 in
theorem compile_hyphenateTens : Rule.compile hyphenateTens = .ok (.joining
    (.whole ((Simple.headed tensWords (.seq (.group 2 (.oneOf unitWords)) .empty)).toPlain 0)) 2
    ("(twenty|thirty|forty|fifty|sixty|seventy|eighty|ninety) " ++
      "(one|two|three|four|five|six|seven|eight|nine)") ['-'] []) := by
  cbv

set_option maxRecDepth 10000 in
theorem compile_andAfterHundred : Rule.compile andAfterHundred = .ok (.joining
    (.whole ((Simple.headed [spell .hundred] letterEnding).toPlain 0)) 2 "(hundred) ([a-zA-Z]+)"
    " and ".toList []) := by
  cbv

set_option maxRecDepth 10000 in
theorem compile_commaBeforeHundreds : Rule.compile commaBeforeHundreds = .ok (.joining
    (.stepwise (.headed (spell .thousand) (spell .million) [3] unwanted)) 3
    "(thousand|million) ([a-zA-Z]+) (?! (hundred|thousand|million))" [',', ' '] [' ']) := by
  cbv

set_option maxRecDepth 10000 in
theorem compile_andAfterScale : Rule.compile andAfterScale = .ok (.joining
    (.whole ((Simple.headed scaleWords letterEnding).toPlain 0)) 2 "(thousand|million) ([a-zA-Z]+)"
    " and ".toList []) := by
  cbv

theorem needsBlank_unwanted : Program.NeedsBlank unwanted := by
  intro place hplace
  -- What must not follow begins with a blank of its own, and fails before it has passed any mark.
  have hblank : Simple.behind? (.single ' ') place = none := by
    rw [Simple.behind?_single, Option.eq_none_iff_forall_ne_some]
    intro stop hstop
    rw [(Cursor.skip?_eq_some_iff.1 hstop).1] at hplace
    exact hplace rfl
  refine ⟨∅, ?_⟩
  rw [unwanted, Simple.toPlain, Simple.toPlain, Plain.tryAt, Plain.run, Trial.andThen,
    Simple.run_set, hblank]

theorem compiles_hyphenateTens : Rule.Compiles hyphenateTens hyphenRewriter :=
  Rule.compiles_joining compile_hyphenateTens
    ((reads_headed (by decide) (by decide) (ending_oneOf (by decide) (by decide)) _ _).mono
      fun _ _ => trivial)

theorem compiles_andAfterHundred : Rule.Compiles andAfterHundred hundredRewriter :=
  Rule.compiles_joining compile_andAfterHundred
    ((reads_headed (by decide) (by decide) ending_many _ _).mono fun _ _ => trivial)

theorem compiles_commaBeforeHundreds : Rule.Compiles commaBeforeHundreds commaRewriter :=
  Rule.compiles_joining compile_commaBeforeHundreds
    (reads_headed_program needsBlank_unwanted (by decide) _ _)

theorem compiles_andAfterScale : Rule.Compiles andAfterScale scaleRewriter :=
  Rule.compiles_joining compile_andAfterScale
    ((reads_headed (by decide) (by decide) ending_many _ _).mono fun _ _ => trivial)

/-! ## The mappings -/

theorem compile_mapping {key : String} {data : List RuleData} {rules : List Rule}
    (h : Mapping.compileRules key 0 data = .ok rules) :
    Mapping.compile key (mapping data) = .ok ⟨key, vocabulary, rules⟩ := by
  show (do let rules ← Mapping.compileRules key 0 data; pure (Mapping.mk key vocabulary rules)) = _
  rw [h]
  rfl

theorem load_mapping {r : Registry} {key : String} {data : List RuleData} {rules : List Rule}
    (h : Mapping.compileRules key 0 data = .ok rules) :
    (r.load key (mapping data)).toOption.getD r = r.insert key ⟨key, vocabulary, rules⟩ := by
  rw [Registry.load, compile_mapping h]
  rfl

theorem compileRules_american : ∃ rules,
    Mapping.compileRules americanKey 0 [hyphenateTens] = .ok rules ∧
    List.Forall₂ Rule.Does rules [hyphenRewriter] :=
  Mapping.compileRules_of_compiles (.cons compiles_hyphenateTens .nil)

theorem compileRules_british : ∃ rules,
    Mapping.compileRules britishKey 0
      [hyphenateTens, andAfterHundred, commaBeforeHundreds, andAfterScale] = .ok rules ∧
    List.Forall₂ Rule.Does rules [hyphenRewriter, hundredRewriter, commaRewriter, scaleRewriter] :=
  Mapping.compileRules_of_compiles (.cons compiles_hyphenateTens (.cons compiles_andAfterHundred
    (.cons compiles_commaBeforeHundreds (.cons compiles_andAfterScale .nil))))

/-- **The standard registry** holds both mappings, compiled. -/
theorem standard_of_compileRules {americanRules britishRules : List Rule}
    (hamerican : Mapping.compileRules americanKey 0 [hyphenateTens] = .ok americanRules)
    (hbritish : Mapping.compileRules britishKey 0
      [hyphenateTens, andAfterHundred, commaBeforeHundreds, andAfterScale] = .ok britishRules) :
    Registry.standard =
      (Dict.insert [] americanKey ⟨americanKey, vocabulary, americanRules⟩).insert britishKey
        ⟨britishKey, vocabulary, britishRules⟩ := by
  rw [← load_mapping hbritish, ← load_mapping hamerican]
  rfl

/-- **The standard mappings** have the English number words, and rules that rewrite tidy phrases. -/
theorem standard_mappings : ∃ americanRules britishRules,
    Registry.standard.get? americanKey = some ⟨americanKey, vocabulary, americanRules⟩ ∧
    List.Forall₂ Rule.Does americanRules [hyphenRewriter] ∧
    Registry.standard.get? britishKey = some ⟨britishKey, vocabulary, britishRules⟩ ∧
    List.Forall₂ Rule.Does britishRules
      [hyphenRewriter, hundredRewriter, commaRewriter, scaleRewriter] := by
  obtain ⟨americanRules, hamerican, hdoes⟩ := compileRules_american
  obtain ⟨britishRules, hbritish, hdoes'⟩ := compileRules_british
  have hkeys : britishKey ≠ americanKey := by decide
  refine ⟨americanRules, britishRules, ?_, hdoes, ?_, hdoes'⟩
  · simp [standard_of_compileRules hamerican hbritish, hkeys]
  · simp [standard_of_compileRules hamerican hbritish]

end English

end Phrasebook.Speech
