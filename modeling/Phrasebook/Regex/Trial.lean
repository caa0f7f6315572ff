import Phrasebook.Regex.Plain
import Std.Data.HashSet

/-!
# Matching plain patterns

A plain pattern runs at a place of a text and hands every place that it can reach to a continuation,
the preferred one first; the first one that the continuation accepts decides. All is by recursion on
the pattern, and for a loop on its rounds.

What follows a place where the match can go on in two ways does not depend on how the place was
reached. So the mark is kept with the place, and whoever comes there again fails: what was tried has
failed, or is still being tried and would come back to where it is.
-/

namespace Phrasebook.Regex

/-- What groups matched, by number, the last match of each first. -/
abbrev Spans := List (Nat × Span)

/-- The marks that were passed, each with the number of characters left at the place. -/
abbrev Marks := Std.HashSet (Nat × Nat)

/-- How a trial ends. -/
inductive Trial where
  | found (stop : Cursor) (spans : Spans)
  | failed (tried : Marks)

namespace Trial

/-- What comes after a pattern. -/
abbrev Continuation := Cursor → Spans → Marks → Trial

/-- How a pattern is tried at a place. -/
abbrev Runner := Cursor → Spans → Marks → Continuation → Trial

/-- Try one way, and another one if it fails. -/
def orElse (first : Trial) (second : Marks → Trial) : Trial :=
  match first with
  | failed tried => second tried
  | found stop spans => found stop spans

/-- Go on in two ways at a mark, unless this was done before at the place. -/
def fork (mark : Nat) (place : Cursor) (tried : Marks) (first second : Marks → Trial) : Trial :=
  let here := (mark, place.left)
  if tried.contains here then failed tried else (first (tried.insert here)).orElse second

/-- Go on with a round or without; `greedy` tells what comes first. -/
def forkRound (mark : Nat) (greedy : Bool) (round : Runner) : Runner := fun place spans tried k =>
  let more := fun tried => round place spans tried k
  let stop := fun tried => k place spans tried
  if greedy then fork mark place tried more stop else fork mark place tried stop more

/-- One runner after another. -/
def andThen (first second : Runner) : Runner := fun place spans tried k =>
  first place spans tried fun place spans tried => second place spans tried k

/-- Copies of a body in a row, from a number on. -/
def copies (body : Nat → Runner) (first : Nat) : Nat → Runner
  | 0 => fun place spans tried k => k place spans tried
  | n + 1 => andThen (body first) (copies body (first + 1) n)

/-- Up to `n` copies of a body in a row, from a number on. -/
def upTo (mark : Nat → Nat) (greedy : Bool) (body : Nat → Runner) (first : Nat) : Nat → Runner
  | 0 => fun place spans tried k => k place spans tried
  | n + 1 =>
    forkRound (mark first) greedy
      (andThen (body first) (upTo mark greedy body (first + 1) n))

/-- Any number of rounds. Since a mark is passed once at each place, `rounds` need not be more than
the number of places. -/
def loop (mark : Nat) (greedy : Bool) (body : Runner) : (rounds : Nat) → Runner
  | 0 => fun _ _ tried _ => failed tried
  | rounds + 1 => forkRound mark greedy (andThen body (loop mark greedy body rounds))

/-- A loop at a place, with as many rounds as there can be. -/
def loopHere (mark : Nat) (greedy : Bool) (body : Runner) : Runner := fun place =>
  loop mark greedy body (place.left + 2) place

end Trial

open Trial in
/-- Run a plain pattern; `shift` is added to its marks. -/
def Plain.run (shift : Nat) : Plain → Runner
  | empty => fun place spans tried k => k place spans tried
  | set s => fun place spans tried k =>
    match place.next? with
    | some (c, next) => if s.has c then k next spans tried else failed tried
    | none => failed tried
  | anchor a => fun place spans tried k =>
    if a.holds place then k place spans tried else failed tried
  | seq a b => andThen (a.run shift) (b.run shift)
  | choice mark a b => fun place spans tried k =>
    fork (mark + shift) place tried (fun tried => a.run shift place spans tried k)
      (fun tried => b.run shift place spans tried k)
  | group i a => fun place spans tried k =>
    a.run shift place spans tried fun stop spans tried =>
      k stop ((i, ⟨place, stop⟩) :: spans) tried
  | repeated mark stride low high greedy a =>
    let body := fun copy => a.run (shift + copy * stride)
    let markOf := fun copy => mark + shift + copy * stride
    match high, low with
    | some high, low => andThen (copies body 0 low) (upTo markOf greedy body low (high - low))
    | none, 0 => loopHere (markOf 0) greedy (body 0)
    | none, n + 1 =>
      andThen (copies body 0 (n + 1)) (loopHere (markOf n) greedy (body n))

/-- Try a plain pattern at a single place. -/
def Plain.tryAt (p : Plain) (place : Cursor) (tried : Marks) : Trial :=
  p.run 0 place [] tried fun stop spans _ => .found stop spans

/-- The first match of a plain pattern from a place on; the marks of earlier places are kept. -/
def Plain.seek (p : Plain) (place : Cursor) (tried : Marks) : Option (Span × Spans) :=
  go place.left place tried
where
  /-- Try at a place and, if there are any, at `further` places after it. -/
  go (further : Nat) (place : Cursor) (tried : Marks) : Option (Span × Spans) :=
    match p.tryAt place tried, further, place.next? with
    | .found stop spans, _, _ => some (⟨place, stop⟩, spans)
    | .failed tried, further + 1, some (_, next) => go further next tried
    | .failed _, _, _ => none

end Phrasebook.Regex
