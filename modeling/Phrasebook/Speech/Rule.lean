import Phrasebook.Speech.Template

/-!
# Rules for phrases

A rule changes a phrase at every match of its pattern: it replaces the match by a template, or it
inserts a text before or after it. A rule is compiled from its data, and the groups that its
replacement names must exist.
-/

namespace Phrasebook.Speech

/-- On which side of a match a text is inserted. -/
inductive Position where
  | before
  | after
  deriving DecidableEq, Repr

/-- A rule as it is written. -/
inductive RuleData where
  | replace (pattern replacement : String)
  | insert (pattern insertion : String) (position : Position)
  deriving DecidableEq, Repr

/-- A compiled rule. -/
inductive Rule where
  | replace (pattern : Regex) (template : Template)
  | insert (pattern : Regex) (insertion : String) (position : Position)

namespace Rule

/-- Compile a pattern. -/
def compilePattern (pattern : String) : Except RuleProblem Regex :=
  match Regex.ofText? pattern with
  | some r => .ok r
  | none => .error .pattern

/-- Compile a rule. -/
def compile : RuleData → Except RuleProblem Rule
  | .replace pattern replacement => do
    let r ← compilePattern pattern
    let template ← Template.read r.groups replacement.toList
    return .replace r template
  | .insert pattern insertion position => do
    let r ← compilePattern pattern
    return .insert r insertion position

/-- What a rule makes of a match. -/
def replacement : Rule → Regex.Hit → List Char
  | replace _ template, h => template.expand h.caps
  | insert _ insertion .before, h => insertion.toList ++ h.text
  | insert _ insertion .after, h => h.text ++ insertion.toList

/-- What the matches are searched for: only a template with groups or dollars needs the groups. -/
def purpose : Rule → Regex.Purpose
  | replace _ template => if template.isLiteral then .places else .groups
  | insert .. => .places

/-- The pattern of a rule. -/
def pattern : Rule → Regex
  | replace r _ | insert r _ _ => r

/-- Apply a rule to every match in a phrase; nothing if matching gave up. -/
def applyTo? (r : Rule) (phrase : List Char) : Option (List Char) :=
  r.pattern.replaceAll? r.purpose r.replacement phrase

end Rule

end Phrasebook.Speech
