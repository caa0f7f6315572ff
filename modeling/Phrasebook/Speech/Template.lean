import Phrasebook.Error
import Phrasebook.Regex.Search

/-!
# Replacement templates

**Reading.** In a replacement `$$` is a dollar and `$&` the whole match; `$` with two digits is that
group if there is one of that number, else `$` with one digit is that group, which must exist; every
other dollar stands for itself.

**Writing.** The written form of a template has `$$` for a dollar and `${n}` for a group. So each
replacement that can be read has a normal form, in which no number runs into what stands behind it.
-/

namespace Phrasebook.Speech

/-- A part of a template: a character, or what a group matched; group 0 is the whole match. -/
inductive Part where
  | char (c : Char)
  | group (index : Nat)
  deriving DecidableEq, Repr

/-- What stands in for a match. -/
abbrev Template := List Part

namespace Template

/-- Read a replacement for a pattern with `groups` groups. -/
def read (groups : Nat) : List Char → Except RuleProblem Template
  | [] => .ok []
  | ['$'] => .ok [.char '$']
  | '$' :: c :: rest =>
    if c = '$' then (read groups rest).map (.char '$' :: ·)
    else if c = '&' then (read groups rest).map (.group 0 :: ·)
    else if c.isDigit then
      let one := Number.digitValue c
      let single : Except RuleProblem Template :=
        if 1 ≤ one ∧ one ≤ groups then (read groups rest).map (.group one :: ·)
        else .error (.missingGroup one groups)
      match rest with
      | [] => single
      | d :: after =>
        let two := 10 * one + Number.digitValue d
        if d.isDigit ∧ 1 ≤ two ∧ two ≤ groups then (read groups after).map (.group two :: ·)
        else single
    else (read groups (c :: rest)).map (.char '$' :: ·)
  | c :: rest => (read groups rest).map (.char c :: ·)

/-- The written form of a part. -/
def writePart : Part → List Char
  | .char c => if c = '$' then ['$', '$'] else [c]
  | .group n => '$' :: '{' :: (Number.digitsText n ++ ['}'])

/-- The written form of a template. -/
def write (t : Template) : List Char :=
  t.flatMap writePart

/-- The normal form of a replacement: what is read from it, written again. -/
def normalForm (groups : Nat) (cs : List Char) : Except RuleProblem (List Char) :=
  (read groups cs).map write

/-- Whether the written form of a template holds no dollar. -/
def isLiteral (t : Template) : Bool :=
  t.all fun
    | .char c => c != '$'
    | .group _ => false

/-- The text of a part for a match. -/
def expandPart (caps : Regex.Captures) : Part → List Char
  | .char c => [c]
  | .group n => caps.textOf n

/-- The text of a template for a match. -/
def expand (t : Template) (caps : Regex.Captures) : List Char :=
  t.flatMap (expandPart caps)

end Template

end Phrasebook.Speech
