import Phrasebook.LanguageTag
import Phrasebook.Plural.Languages

/-!
# Choosing a plural category

`plainCategory` looks up the rules of a locale and applies them. Where the rules come from is left
open (`RuleSource`): the locale data are no part of this library, and what holds of a choice holds
whatever they are. `commonSource` is the source that is used where no other is given.

A `RuleMemo` keeps the rules that were looked up before, a failure included, so that a run of
questions looks up the rules of each locale and kind once; the answers are the same. This does not
hang on the rules, so it is said for any `Classifier`.
-/

namespace Phrasebook.Plural

/-- Where rules come from: for the text of a locale and a kind, what gives each number its category,
or nothing if the locale has no rules. -/
abbrev RuleSource := String → PluralKind → Option (Operands → Category)

/-- Apply rules to a quantity. Without rules, or for a quantity without operands, the category is
`other`. -/
def categorize (rules : Option (Operands → Category)) (q : Quantity) : Category :=
  match rules, q.operands? with
  | some category, some operands => category operands
  | _, _ => .other

/-- The category of a quantity in a locale. -/
def plainCategory (source : RuleSource) (locale : String) (q : Quantity) (kind : PluralKind) :
    Category :=
  categorize (source locale kind) q

/-! ## The common locale data -/

/-- The rules of the first tag that has some. A language that the tables do not list has none, and
every number of it is `other`. -/
def rulesFor (kind : PluralKind) (tag : LanguageTag) : Rules :=
  (tag.candidates.findSome? fun name =>
    ((rulesOf kind).find? fun (names, _) => names.contains name).map (·.2)).getD []

/-- The rules of the tables for the text of a locale; a malformed one has none. -/
def commonSource : RuleSource := fun locale kind =>
  (LanguageTag.ofText? locale).map fun tag => (rulesFor kind tag).category

/-! ## Remembered rules -/

/-- A question for the category of a quantity in a locale. -/
structure Question where
  locale : String
  quantity : Quantity
  kind : PluralKind

/-- What the rules of a question are looked up for. -/
def Question.topic (q : Question) : String × PluralKind :=
  (q.locale, q.kind)

/-- Where rules come from and how they are applied. What is built depends on the locale and the kind
alone, and a locale may have no rules. -/
structure Classifier (R : Type) where
  build : String → PluralKind → Option R
  categorize : Option R → Quantity → Category

/-- The classifier that builds its rules from a source. -/
def RuleSource.classifier (source : RuleSource) : Classifier (Operands → Category) where
  build := source
  categorize := categorize

/-- The rules that were built so far, by locale and kind. -/
abbrev RuleMemo (R : Type) := List ((String × PluralKind) × Option R)

namespace Classifier

variable {R : Type}

/-- Answer a question with rules that are built for it. -/
def plain (c : Classifier R) (q : Question) : Category :=
  c.categorize (c.build q.locale q.kind) q.quantity

/-- Answer a question with remembered rules, or else with rules that are built and remembered. -/
def answer (c : Classifier R) (memo : RuleMemo R) (q : Question) : Category × RuleMemo R :=
  match memo.lookup q.topic with
  | some rules => (c.categorize rules q.quantity, memo)
  | none =>
    let rules := c.build q.locale q.kind
    (c.categorize rules q.quantity, memo ++ [(q.topic, rules)])

/-- Answer questions one after another. -/
def answers (c : Classifier R) (memo : RuleMemo R) : List Question → List Category × RuleMemo R
  | [] => ([], memo)
  | q :: rest =>
    let (category, memo) := c.answer memo q
    let (categories, memo) := c.answers memo rest
    (category :: categories, memo)

end Classifier

/-- The categories of several quantities of one locale. -/
def RuleMemo.categories (memo : RuleMemo (Operands → Category)) (locale : String)
    (kind : PluralKind) (qs : List Quantity) (source : RuleSource := commonSource) :
    List Category × RuleMemo (Operands → Category) :=
  source.classifier.answers memo (qs.map fun q => ⟨locale, q, kind⟩)

end Phrasebook.Plural
