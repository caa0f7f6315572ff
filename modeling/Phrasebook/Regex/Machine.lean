import Phrasebook.Regex.Program
import Phrasebook.Regex.Trial

/-!
# Running programs

**Search.** A program runs at a moment of the search and hands every moment that it can reach to a
continuation, the preferred one first; the first one that the continuation accepts decides. All is by
recursion on the program, and for a loop on its rounds.

**Choices.** Each choice that is still open has a level. A failure goes back to the choice on the level
just below its `floor`, and the choices on higher levels are not taken up: an atomic group and a
negative look-around take them away. Going back is counted as a step, and the search gives up when
there are too many steps or too many open choices (`stepLimit`, `levelLimit`).

**Groups.** When a group begins, its old end is kept until it ends again. A reference back needs both.
-/

namespace Phrasebook.Regex

/-- Where a group began and ended last. -/
structure Bounds where
  start : Option Cursor := none
  stop : Option Cursor := none

/-- The text between the bounds of a group; none if one is missing or they are out of order. -/
def Bounds.span? (b : Bounds) : Option Span :=
  match b.start, b.stop with
  | some start, some stop => if start.left < stop.left then none else some ⟨start, stop⟩
  | _, _ => none

/-- A moment of a search. -/
structure Moment where
  place : Cursor
  /-- The bounds of the groups, by number. -/
  groups : List (Nat × Bounds) := []
  /-- The number of characters left when the progress of a loop was last watched, by its number. -/
  watched : List (Nat × Nat) := []
  /-- The levels to which closing an atomic group goes back, the innermost first. -/
  scopes : List Nat := []
  /-- The number of open choices. -/
  level : Nat := 0
  /-- The number of steps so far. -/
  steps : Nat := 0

namespace Moment

/-- The bounds of a group. -/
def boundsOf (m : Moment) (index : Nat) : Bounds :=
  (m.groups.lookup index).getD {}

/-- Set the bounds of a group. -/
def setBounds (m : Moment) (index : Nat) (b : Bounds) : Moment :=
  { m with groups := (index, b) :: m.groups.filter (·.1 != index) }

/-- Let a group begin here. -/
def beginGroup (m : Moment) (index : Nat) : Moment :=
  m.setBounds index { m.boundsOf index with start := some m.place }

/-- Let a group end here. -/
def endGroup (m : Moment) (index : Nat) : Moment :=
  m.setBounds index { m.boundsOf index with stop := some m.place }

/-- Set the bounds of groups to what a part matched by itself says of them. -/
def setSpans (m : Moment) (spans : Spans) : List Nat → Moment
  | [] => m
  | i :: groups =>
    let b : Bounds :=
      match spans.lookup i with
      | some s => ⟨some s.start, some s.stop⟩
      | none => {}
    (m.setBounds i b).setSpans spans groups

/-- Watch the progress of a loop from here. -/
def watch (m : Moment) (number : Nat) : Moment :=
  { m with watched := (number, m.place.left) :: m.watched.filter (·.1 != number) }

/-- Whether a loop has made no progress since it was watched. -/
def isStuck (m : Moment) (number : Nat) : Bool :=
  m.watched.lookup number == some m.place.left

/-- Open a scope at the present level. -/
def openScope (m : Moment) : Moment :=
  { m with scopes := m.level :: m.scopes }

/-- Close the innermost scope: no choice made in it is taken up again. -/
def closeScope (m : Moment) : Moment :=
  match m.scopes with
  | level :: scopes => { m with scopes, level }
  | [] => m

end Moment

/-- How a run ends. -/
inductive Outcome where
  | found (m : Moment)
  /-- Without a match; choices on levels from `floor` on are not taken up. -/
  | failed (floor steps : Nat)
  | gaveUp

namespace Program

/-- The number of steps that a search may take. -/
def stepLimit : Nat :=
  1000000

/-- The number of choices that may be open. -/
def levelLimit : Nat :=
  1000000

/-- What comes after a program. -/
abbrev Continuation := Moment → Outcome

/-- How a program is run. -/
abbrev Runner := Moment → Continuation → Outcome

/-- Fail, and go back to the last choice. -/
def fail (m : Moment) : Outcome :=
  .failed m.level m.steps

/-- Make a choice: take one way, and the other one if the search comes back. -/
def choose (m : Moment) (first second : Moment → Outcome) : Outcome :=
  if m.level < levelLimit then
    match first { m with level := m.level + 1 } with
    | .failed floor steps =>
      if floor ≤ m.level then .failed floor steps
      else if steps < stepLimit then second { m with steps := steps + 1 }
      else .gaveUp
    | outcome => outcome
  else .gaveUp

/-- Choose between another round and going on; `greedy` tells what comes first. -/
def chooseRound (greedy : Bool) (m : Moment) (round stop : Moment → Outcome) : Outcome :=
  if greedy then choose m round stop else choose m stop round

/-- Run any number of rounds. With each of them another choice is opened, so there are no more than
`rounds` if that is the number of choices that may be open. -/
def runStar (greedy : Bool) (body : Runner) : (rounds : Nat) → Runner
  | 0 => fun _ _ => .gaveUp
  | rounds + 1 => fun m k =>
    chooseRound greedy m (fun m => body m fun m => runStar greedy body rounds m k) k

/-- Run rounds that are counted. -/
def runCounted (low : Nat) (high : Option Nat) (greedy : Bool) (body : Runner) :
    (rounds count : Nat) → Runner
  | 0, _ => fun _ _ => .gaveUp
  | rounds + 1, count => fun m k =>
    let round := fun m => body m fun m => runCounted low high greedy body rounds (count + 1) m k
    if high = some count then k m
    else if count < low then round m
    else chooseRound greedy m round k

/-- Run rounds that may take nothing. A round after one that took nothing fails. -/
def runGuarded (number low : Nat) (greedy : Bool) (body : Runner) : (rounds count : Nat) → Runner
  | 0, _ => fun _ _ => .gaveUp
  | rounds + 1, count => fun m k =>
    let round := fun m => body m fun m => runGuarded number low greedy body rounds (count + 1) m k
    if 0 < count ∧ m.isStuck number then fail m
    else if count < low then round m
    else chooseRound greedy (m.watch number) round k

/-- Run a program. The search started at `start`, unless there is no going on from there. -/
def run (start : Option Cursor) : Program → Runner
  | empty => fun m k => k m
  | text cs => fun m k =>
    match m.place.skip? cs with
    | some place => k { m with place }
    | none => fail m
  | any newline => fun m k =>
    match m.place.next? with
    | some (c, place) => if newline || c != '\n' then k { m with place } else fail m
    | none => fail m
  | anchor a => fun m k => if a.holds m.place then k m else fail m
  | part groups p => fun m k =>
    match p.tryAt m.place ∅ with
    | .found place spans => k ({ m with place }.setSpans spans groups)
    | .failed _ => fail m
  | seq a b => fun m k => a.run start m fun m => b.run start m k
  | choice a b => fun m k => choose m (fun m => a.run start m k) (fun m => b.run start m k)
  | group i a => fun m k => a.run start (m.beginGroup i) fun m => k (m.endGroup i)
  | star greedy a => runStar greedy (a.run start) (levelLimit + 1)
  | counted low high greedy a =>
    runCounted low high greedy (a.run start) (low + levelLimit + 1) 0
  | guarded number low greedy a =>
    runGuarded number low greedy (a.run start) (low + levelLimit + 1) 0
  | look false a => fun m k => a.run start m fun after => k { after with place := m.place }
  | look true a => fun m k =>
    choose m (fun inside => a.run start inside fun after => .failed m.level after.steps) k
  | behind n a => fun m k =>
    match m.place.goBack? n with
    | some place => a.run start { m with place } k
    | none => fail m
  | backreference i => fun m k =>
    match (m.boundsOf i).span? with
    | some s =>
      match m.place.skip? s.text with
      | some place => k { m with place }
      | none => fail m
    | none => fail m
  | begun i => fun m k => if (m.boundsOf i).start.isSome then k m else fail m
  | atomic a => fun m k => a.run start m.openScope fun m => k m.closeScope
  | keep => fun m k => k (m.beginGroup 0)
  | resume => fun m k =>
    if start.any fun s => s.left ≤ m.place.left then k m else fail m
  | conditional test yes no => fun m k =>
    choose m.openScope
      (fun m => test.run start m fun m => yes.run start m.closeScope k)
      (fun m => no.run start m k)

/-- Run a program as a whole, and note what is matched as group 0. -/
def runWhole (p : Program) (start : Option Cursor) (m : Moment) : Outcome :=
  (group 0 p).run start m .found

/-- The first match of a program from a place on, or at one of `further` places after it. To go on to
the next place is the last choice that is left. -/
def seek (p : Program) (start : Option Cursor) : (further : Nat) → Moment → Outcome
  | 0, m => choose m (p.runWhole start) fail
  | further + 1, m =>
    choose m (p.runWhole start) fun m =>
      match m.place.next? with
      | some (_, place) => seek p start further { m with place }
      | none => fail m

end Program

end Phrasebook.Regex
