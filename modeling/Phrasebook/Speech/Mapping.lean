import Phrasebook.Speech.Rule

/-!
# Speech mappings

A mapping has the number words of a language and the rules that polish a phrase made of them. It is
compiled from data: nine units, ten teens and eight tens are required, and every rule must compile.
-/

namespace Phrasebook.Speech

/-- How many words there are for the units, from one to nine. -/
def unitCount : Nat := 9

/-- How many words there are for ten to nineteen. -/
def teenCount : Nat := 10

/-- How many words there are for the tens, from twenty to ninety. -/
def tensCount : Nat := 8

/-- A mapping as it is written. -/
structure MappingData where
  negative : String
  zero : String
  units : List String
  teens : List String
  tens : List String
  hundred : String
  thousand : String
  million : String
  rules : List RuleData := []
  deriving DecidableEq, Repr

/-- The number words of a language. -/
structure Vocabulary where
  negative : String
  zero : String
  units : Vector String unitCount
  teens : Vector String teenCount
  tens : Vector String tensCount
  hundred : String
  thousand : String
  million : String

namespace Vocabulary

/-- The word for a digit from one to nine; empty for any other number. -/
def unit (v : Vocabulary) (digit : Nat) : String :=
  if 1 ≤ digit then v.units[digit - 1]?.getD "" else ""

/-- The word for a number from ten to nineteen; empty for any other number. -/
def teen (v : Vocabulary) (n : Nat) : String :=
  if 10 ≤ n then v.teens[n - 10]?.getD "" else ""

/-- The word for a digit of tens from two to nine; empty for any other number. -/
def ten (v : Vocabulary) (digit : Nat) : String :=
  if 2 ≤ digit then v.tens[digit - 2]?.getD "" else ""

end Vocabulary

/-- A compiled mapping, with the key it is known under. -/
structure Mapping where
  key : String
  words : Vocabulary
  rules : List Rule

namespace Mapping

/-- A list of words as a vector of the required length. -/
def checkCount (key field : String) (words : List String) (n : Nat) :
    Except LoadError (Vector String n) :=
  if h : words.toArray.size = n then .ok ⟨words.toArray, h⟩
  else .error (.invalidVocabulary key (.wordCount field n words.length))

/-- Compile rules, of which the first has the given number. -/
def compileRules (key : String) (index : Nat) : List RuleData → Except LoadError (List Rule)
  | [] => .ok []
  | r :: rest =>
    match Rule.compile r with
    | .error problem => .error (.invalidRule key index problem)
    | .ok rule => do
      let more ← compileRules key (index + 1) rest
      return rule :: more

/-- Compile a mapping under a key. -/
def compile (key : String) (d : MappingData) : Except LoadError Mapping := do
  let units ← checkCount key "units" d.units unitCount
  let teens ← checkCount key "teens" d.teens teenCount
  let tens ← checkCount key "tens" d.tens tensCount
  let rules ← compileRules key 0 d.rules
  return {
    key, rules
    words := { d with units, teens, tens } }

/-- Apply rules one after another, of which the first has the given number. -/
def applyFrom (key : String) (index : Nat) : List Rule → List Char → Except LookupError (List Char)
  | [], phrase => .ok phrase
  | r :: rest, phrase =>
    match r.applyTo? phrase with
    | some phrase => applyFrom key (index + 1) rest phrase
    | none => .error (.ruleGaveUp key index)

/-- Apply the rules of a mapping to a phrase, one after another. -/
def applyRules (m : Mapping) (phrase : String) : Except LookupError String :=
  (applyFrom m.key 0 m.rules phrase.toList).map String.ofList

end Mapping

end Phrasebook.Speech
