import Phrasebook.Regex.Machine
import Phrasebook.Regex.Parse

/-!
# Searching and replacing

**Matches.** The first match is at the leftmost place where there is one. The search for the next
goes on where the last one ended, one character further if that was empty; an empty match directly
at the end of the match before it does not count.

**Cuts.** `Regex.cuts?` takes a text apart into its matches, each with the text before it, and what
follows the last one. Every replacement is written on these pieces.
-/

namespace Phrasebook

namespace Regex

/-- How a regular expression is matched: as a whole, or step by step. -/
inductive Method where
  | whole (p : Plain)
  | stepwise (p : Program)
  deriving Inhabited

end Regex

/-- A regular expression, ready to be matched. -/
structure Regex where
  method : Regex.Method
  /-- How many groups remember what they matched. -/
  groups : Nat
  /-- Whether it asks for the place where the search started. -/
  resumes : Bool
  /-- The text that it was read from. -/
  source : String
  deriving Inhabited

namespace Regex

/-- Read and compile a regular expression. One that is matched as a whole has only the groups that
its plain form has kept. -/
def ofText? (text : String) : Option Regex := do
  let (pattern, groups) ← Pattern.ofText? text
  let resumes := pattern.resumes
  if pattern.isBranching pattern.references then
    let program ← pattern.program?
    return { method := .stepwise program, groups, resumes, source := text }
  else
    let plain ← pattern.plain?
    return { method := .whole plain, groups := plain.groupCount, resumes, source := text }

/-! ## Matches -/

/-- A match: what was matched as a whole, and what the groups matched last. -/
structure Captures where
  whole : Span
  groups : Spans

namespace Captures

/-- What a group matched, or nothing if it took no part; group 0 is the whole match. -/
def textOf (caps : Captures) (index : Nat) : List Char :=
  if index = 0 then caps.whole.text else ((caps.groups.lookup index).map Span.text).getD []

/-- The match that ends a search. It cannot start behind its end. -/
def ofMoment (m : Moment) : Captures where
  whole :=
    let b := m.boundsOf 0
    let stop := b.stop.getD m.place
    let start := b.start.getD m.place
    ⟨if start.left < stop.left then stop else start, stop⟩
  groups := m.groups.filterMap fun (i, b) => b.span?.map fun s => (i, s)

end Captures

/-- What is found by a search. -/
inductive Finding where
  | hit (caps : Captures)
  | nothing
  | gaveUp

/-- What the matches are searched for: to know where they are, or what their groups matched too. -/
inductive Purpose where
  | places
  | groups
  deriving DecidableEq, Repr

/-- Search from a place on. Where the search started is not known with `passed`. -/
def find (r : Regex) (passed : Bool) (place : Cursor) : Finding :=
  match r.method with
  | .whole p =>
    match p.seek place ∅ with
    | some (whole, groups) => .hit ⟨whole, groups⟩
    | none => .nothing
  | .stepwise p =>
    let start := if passed && r.resumes then none else some place
    match p.seek start place.left { place } with
    | .found m => .hit (.ofMoment m)
    | .failed .. => .nothing
    | .gaveUp => .gaveUp

/-! ## Cuts -/

/-- A match with the text before it. -/
structure Hit where
  gap : List Char
  caps : Captures

/-- What was matched. -/
def Hit.text (h : Hit) : List Char :=
  h.caps.whole.text

/-- A text taken apart. -/
structure Cuts where
  hits : List Hit
  /-- What follows the last match. -/
  tail : List Char

/-- Put one more match in front. -/
def Cuts.cons (h : Hit) (c : Cuts) : Cuts :=
  { c with hits := h :: c.hits }

/-- Collect the matches from a place on, if it is not behind the text. The text up to `last` was taken
apart before, and `matched` tells whether a match ends there. A search for places does not know its
start where it has passed a character since that match. Without a result a search gave up. -/
def collect (r : Regex) (purpose : Purpose) (matched : Bool) (last : Cursor) :
    (searches : Nat) → (place : Option Cursor) → Option Cuts
  | searches + 1, some place =>
    let passed := purpose == .places && matched && place.left < last.left
    match r.find passed place with
    | .gaveUp => none
    | .nothing => some ⟨[], last.after⟩
    | .hit caps =>
      let stop := caps.whole.stop
      let hit : Hit := ⟨last.textTo caps.whole.start, caps⟩
      if caps.whole.isEmpty then
        let next := stop.next?.map (·.2)
        if matched && stop.left == last.left then collect r purpose matched last searches next
        else (collect r purpose true stop searches next).map (·.cons hit)
      else (collect r purpose true stop searches (some stop)).map (·.cons hit)
  | _, _ => some ⟨[], last.after⟩

/-- Take a text apart at the matches; nothing if a search gave up. -/
def cuts? (r : Regex) (purpose : Purpose) (text : List Char) : Option Cuts :=
  let start := Cursor.ofText text
  collect r purpose false start (text.length + 2) (some start)

/-- Put a text together again, with something else for each match. -/
def Cuts.rebuild (c : Cuts) (replacement : Hit → List Char) : List Char :=
  c.hits.flatMap (fun h => h.gap ++ replacement h) ++ c.tail

/-- Replace every match in a text; nothing if a search gave up. -/
def replaceAll? (r : Regex) (purpose : Purpose) (replacement : Hit → List Char)
    (text : List Char) : Option (List Char) :=
  (r.cuts? purpose text).map (·.rebuild replacement)

end Regex

end Phrasebook
