import Phrasebook.Regex.Cursor

/-!
# Patterns

The parts of a regular expression as it is written, and what can be told from them alone: how many
characters a match has at least (`Pattern.minLength`), whether it always has that many
(`Pattern.isFixed`), and whether the way to a match matters (`Pattern.isBranching`): then it has to
be found by going back over choices, while of any other pattern only the preferred match counts.
-/

namespace Phrasebook.Regex

open Unicode (CharSet)

/-- Which side of the place a look-around looks at. -/
inductive Side where
  | ahead
  | behind
  deriving DecidableEq, Repr

/-- A regular expression as it is written. -/
inductive Pattern where
  | empty
  | literal (c : Char) (fold : Bool)
  /-- Any character; a newline only with `newline`. -/
  | any (newline : Bool)
  /-- A character of each of some sets in a row, nearly always of a single one. What repeats a row is
  for all of it if it is `joined`, else for the last set. -/
  | sets (row : List CharSet) (joined : Bool)
  | anchor (a : Anchor)
  | row (parts : List Pattern)
  | choice (branches : List Pattern)
  /-- A group that remembers what it matched under a number. -/
  | group (index : Nat) (body : Pattern)
  /-- At least `low` times the body, and at most `high` times if there is a bound. -/
  | repeated (low : Nat) (high : Option Nat) (greedy : Bool) (body : Pattern)
  | look (side : Side) (negated : Bool) (body : Pattern)
  /-- What a group matched last. -/
  | backreference (index : Nat)
  /-- The condition that a group has begun to match. -/
  | begun (index : Nat)
  /-- A body that is not tried again once it has matched. -/
  | atomic (body : Pattern)
  /-- The place where the match is taken to start. -/
  | keep
  /-- The place where the search started. -/
  | resume
  /-- One pattern or another, depending on whether a third one matches. -/
  | conditional (test yes no : Pattern)
  deriving Inhabited

namespace Pattern

mutual

/-- The least number of characters of a match. -/
def minLength : Pattern → Nat
  | literal .. | any _ | sets .. => 1
  | empty | anchor _ | look .. | backreference _ | begun _ | keep | resume => 0
  | row ps => sumOfMinLengths ps
  | choice ps => leastMinLength ps
  | group _ a | atomic a => a.minLength
  | repeated low _ _ a => low * a.minLength
  | conditional test yes no => test.minLength + min yes.minLength no.minLength

/-- The least number of characters of matches in a row. -/
def sumOfMinLengths : List Pattern → Nat
  | [] => 0
  | p :: ps => p.minLength + sumOfMinLengths ps

/-- The least number of characters of a match of any branch. -/
def leastMinLength : List Pattern → Nat
  | [] => 0
  | [p] => p.minLength
  | p :: q :: ps => min p.minLength (leastMinLength (q :: ps))

end

mutual

/-- Whether all matches are known to have the least number of characters. -/
def isFixed : Pattern → Bool
  | empty | literal .. | any _ | sets .. | anchor _ | look .. | begun _ | keep | resume => true
  | backreference _ => false
  | row ps => areFixed ps
  | choice ps => areFixed ps && (ps.all fun p => p.minLength == leastMinLength ps)
  | group _ a | atomic a => a.isFixed
  | repeated low high _ a => a.isFixed && high == some low
  | conditional test yes no =>
    test.isFixed && yes.isFixed && no.isFixed &&
      test.minLength + yes.minLength == no.minLength

/-- Whether all matches of each part are known to have the same number of characters. -/
def areFixed : List Pattern → Bool
  | [] => true
  | p :: ps => p.isFixed && areFixed ps

end

mutual

/-- Whether the way to a match matters; `references` are the groups that the whole pattern refers
to. -/
def isBranching (references : List Nat) : Pattern → Bool
  | empty | literal .. | any _ | sets .. => false
  | look .. | backreference _ | begun _ | atomic _ | keep | resume | conditional .. => true
  | anchor a => a.isOfWords
  | row ps | choice ps => areBranching references ps
  | group i a => references.contains i || a.isBranching references
  | repeated _ _ _ a => a.isBranching references

/-- Whether the way to a match matters for any part. -/
def areBranching (references : List Nat) : List Pattern → Bool
  | [] => false
  | p :: ps => p.isBranching references || areBranching references ps

end

mutual

/-- The groups that a pattern refers to. -/
def references : Pattern → List Nat
  | empty | literal .. | any _ | sets .. | anchor _ | keep | resume => []
  | backreference i | begun i => [i]
  | row ps | choice ps => referencesOf ps
  | group _ a | repeated _ _ _ a | look _ _ a | atomic a => a.references
  | conditional test yes no => test.references ++ yes.references ++ no.references

/-- The groups that the parts refer to. -/
def referencesOf : List Pattern → List Nat
  | [] => []
  | p :: ps => p.references ++ referencesOf ps

end

mutual

/-- The numbers of the groups in a pattern. -/
def groupNumbers : Pattern → List Nat
  | empty | literal .. | any _ | sets .. | anchor _ | backreference _ | begun _ | keep | resume => []
  | row ps | choice ps => groupNumbersOf ps
  | group i a => i :: a.groupNumbers
  | repeated _ _ _ a | look _ _ a | atomic a => a.groupNumbers
  | conditional test yes no => test.groupNumbers ++ yes.groupNumbers ++ no.groupNumbers

/-- The numbers of the groups in the parts. -/
def groupNumbersOf : List Pattern → List Nat
  | [] => []
  | p :: ps => p.groupNumbers ++ groupNumbersOf ps

end

mutual

/-- Whether a pattern asks for the place where the search started. -/
def resumes : Pattern → Bool
  | resume => true
  | empty | literal .. | any _ | sets .. | anchor _ | backreference _ | begun _ | keep => false
  | row ps | choice ps => anyResumes ps
  | group _ a | repeated _ _ _ a | look _ _ a | atomic a => a.resumes
  | conditional test yes no => test.resumes || yes.resumes || no.resumes

/-- Whether any part asks for the place where the search started. -/
def anyResumes : List Pattern → Bool
  | [] => false
  | p :: ps => p.resumes || anyResumes ps

end

mutual

/-- The only text that a pattern matches, where it is plain text. -/
def text? : Pattern → Option (List Char)
  | literal c false => some [c]
  | row ps => joinedText? ps
  | _ => none

/-- The text of parts in a row, where all of them are plain text. -/
def joinedText? : List Pattern → Option (List Char)
  | [] => some []
  | p :: ps => do return (← p.text?) ++ (← joinedText? ps)

end

/-- Whether a pattern is empty. -/
def isEmpty : Pattern → Bool
  | empty => true
  | _ => false

/-- Parts in a row. -/
def ofParts : List Pattern → Pattern
  | [] => empty
  | [p] => p
  | ps => row ps

end Pattern

end Phrasebook.Regex
