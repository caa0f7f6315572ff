import Phrasebook.Regex.Pattern
import Phrasebook.Unicode.Folding

/-!
# Plain patterns

A pattern in which the way to a match does not matter is brought into a plain form: characters are
sets, and repetitions that could only match nothing are cut down. The form is refused if a count is
too large, or if counts are out of order.

Every place where a match can go on in two ways has a mark, by which it is remembered that a way was
tried. Repetitions stand for copies of their body, which have marks of their own: `stride` is the
number of marks of one copy.
-/

namespace Phrasebook.Regex

open Unicode (CharSet)

/-- A plain pattern. -/
inductive Plain where
  | empty
  | set (s : CharSet)
  | anchor (a : Anchor)
  | seq (first second : Plain)
  | choice (mark : Nat) (first second : Plain)
  | group (index : Nat) (body : Plain)
  | repeated (mark stride low : Nat) (high : Option Nat) (greedy : Bool) (body : Plain)
  deriving Inhabited

namespace Plain

/-- The least number of characters of a match. -/
def minLength : Plain → Nat
  | set _ => 1
  | empty | anchor _ => 0
  | seq a b => a.minLength + b.minLength
  | choice _ a b => min a.minLength b.minLength
  | group _ a => a.minLength
  | repeated _ _ low _ _ a => low * a.minLength

/-- Whether all matches are empty. -/
def takesNothing : Plain → Bool
  | set _ => false
  | empty | anchor _ => true
  | seq a b | choice _ a b => a.takesNothing && b.takesNothing
  | group _ a => a.takesNothing
  | repeated _ _ _ _ _ a => a.takesNothing

/-- The number of groups. -/
def groupCount : Plain → Nat
  | empty | set _ | anchor _ => 0
  | seq a b | choice _ a b => a.groupCount + b.groupCount
  | group _ a => a.groupCount + 1
  | repeated _ _ _ _ _ a => a.groupCount

/-! ## Making -/

/-- The largest count in a plain pattern. -/
def countLimit : Nat :=
  4294967295

/-- A repetition. A body that takes nothing is matched once at most, and no round at all is empty. Any
number of rounds that may be empty is at least one round or none. -/
def repetition (low : Nat) (high : Option Nat) (greedy : Bool) (body : Plain) : Plain :=
  let (low, high) :=
    if body.takesNothing then (min low 1, some (min (high.getD 1) 1)) else (low, high)
  if high = some 0 then empty
  else if low = 1 ∧ high = some 1 then body
  else if low = 0 ∧ high = none ∧ body.minLength = 0 then
    repeated 0 0 0 (some 1) greedy (repeated 0 0 1 none greedy body)
  else repeated 0 0 low high greedy body

/-- Whether the counts of a repetition are in order and not too large. -/
def countsAllowed (low : Nat) (high : Option Nat) : Bool :=
  low ≤ countLimit && high.all fun n => low ≤ n && n ≤ countLimit

/-- A row of sets. -/
def ofSets : List CharSet → Plain
  | [] => empty
  | [s] => set s
  | s :: row => seq (set s) (ofSets row)

/-- A row of sets of which only the last is repeated. -/
def repeatedLast (low : Nat) (high : Option Nat) (greedy : Bool) : List CharSet → Plain
  | [] => empty
  | [s] => repetition low high greedy (set s)
  | s :: row => seq (set s) (repeatedLast low high greedy row)

mutual

/-- The plain form of a pattern, if there is one. -/
def ofPattern? : Pattern → Option Plain
  | .empty => some empty
  | .literal c fold => some (set ((CharSet.single c).foldIf fold))
  | .any newline => some (set (if newline then .all else (CharSet.single '\n').compl))
  | .sets row _ => some (ofSets row)
  | .anchor a => some (anchor a)
  | .row ps => ofRow? ps
  | .choice ps => ofBranches? ps
  | .group i a => (ofPattern? a).map (group i)
  | .repeated low high greedy a =>
    if countsAllowed low high then
      match a with
      | .sets row false => some (repeatedLast low high greedy row)
      | a => (ofPattern? a).map (repetition low high greedy)
    else none
  | .look .. | .backreference _ | .begun _ | .atomic _ | .keep | .resume | .conditional .. => none

/-- The plain form of parts in a row. -/
def ofRow? : List Pattern → Option Plain
  | [] => some empty
  | p :: ps => do return seq (← ofPattern? p) (← ofRow? ps)

/-- The plain form of branches. -/
def ofBranches? : List Pattern → Option Plain
  | [] => some empty
  | [p] => ofPattern? p
  | p :: q :: ps => do return choice 0 (← ofPattern? p) (← ofBranches? (q :: ps))

end

/-- Give out marks from `n` on; the number behind the last one is given back. -/
def number (n : Nat) : Plain → Plain × Nat
  | seq a b =>
    let (a, n) := a.number n
    let (b, n) := b.number n
    (seq a b, n)
  | choice _ a b =>
    let (a, m) := a.number (n + 1)
    let (b, m) := b.number m
    (choice n a b, m)
  | group i a =>
    let (a, n) := a.number n
    (group i a, n)
  | repeated _ _ low high greedy a =>
    let (a, m) := a.number (n + 1)
    let stride := m - n
    (repeated n stride low high greedy a, n + stride * max low (high.getD 1))
  | p => (p, n)

end Plain

end Phrasebook.Regex
