import Phrasebook.Regex.Size

/-!
# Programs

A pattern in which the way to a match matters is compiled into a program, which goes back over its
choices one by one. Parts of it in which the way does not matter are kept as plain patterns; each is
matched by itself, and only the match that it prefers is ever taken. This holds for a part that is
last in the whole pattern, in a look-around or in an atomic group, and for the parts at both ends of a
row whose length is fixed; elsewhere the parts become steps of the program.

A loop whose rounds may match nothing is guarded: its rounds are watched for progress, once the
required ones are done. A pattern does not compile if it looks behind over a stretch whose length is
not fixed; the branches of a choice may differ in length.
-/

namespace Phrasebook.Regex

/-- A regular expression as it is run step by step. -/
inductive Program where
  | empty
  | text (cs : List Char)
  | any (newline : Bool)
  | anchor (a : Anchor)
  /-- A part that is matched by itself; `groups` are its groups. -/
  | part (groups : List Nat) (p : Plain)
  | seq (first second : Program)
  | choice (first second : Program)
  | group (index : Nat) (body : Program)
  /-- Any number of rounds, each of which takes characters. -/
  | star (greedy : Bool) (body : Program)
  /-- At least `low` rounds, which are counted up to `high`. -/
  | counted (low : Nat) (high : Option Nat) (greedy : Bool) (body : Program)
  /-- At least `low` rounds, which may take nothing; the loop has a number of its own. -/
  | guarded (number low : Nat) (greedy : Bool) (body : Program)
  | look (negated : Bool) (body : Program)
  /-- The body some characters further back. -/
  | behind (length : Nat) (body : Program)
  | backreference (index : Nat)
  | begun (index : Nat)
  | atomic (body : Program)
  | keep
  | resume
  | conditional (test yes no : Program)
  deriving Inhabited

namespace Program

/-- What gives out the numbers of loops while a program is built, and may fail. -/
abbrev Build := StateT Nat Option

/-- The number of another loop. -/
def newNumber : Build Nat :=
  modifyGet fun n => (n, n + 1)

/-- A choice between a body and nothing; `greedy` tells what comes first. -/
def optional (greedy : Bool) (body : Program) : Program :=
  if greedy then choice body empty else choice empty body

/-- A repetition of a body with at least `least` characters. -/
def repetition (least low : Nat) (high : Option Nat) (greedy : Bool) (body : Program) :
    Build Program := do
  match high, low with
  | none, low =>
    if least = 0 then return guarded (← newNumber) low greedy body
    else if low = 0 then return star greedy body
    else if low = 1 then return seq body (star greedy body)
    else return counted low none greedy body
  | some high, low => return counted low (some high) greedy body

/-- Parts in a row that are matched by themselves. -/
def ofPlain (ps : List Pattern) : Build Program :=
  match ps with
  | [] => return empty
  | ps =>
    match Pattern.joinedText? ps with
    | some cs => return text cs
    | none => do
      let some p := (Pattern.ofParts ps).plain? | failure
      return part (Pattern.groupNumbersOf ps) p

/-- A look-around at a body that some characters, if any, have to be gone back for. -/
def lookAt (side : Side) (negated fixed : Bool) (length : Nat) (body : Program) : Build Program :=
  match side with
  | .ahead => return look negated body
  | .behind => if fixed then return look negated (behind length body) else failure

mutual

/-- Compile a pattern. With `inner` something may come after it that fails, so that other ways to
match it must be tried. -/
def ofPattern (references : List Nat) (inner : Bool) (p : Pattern) : Build Program :=
  if !inner && !p.isBranching references then ofPlain [p]
  else
    match p with
    | .empty => return empty
    | .literal .. | .sets .. => ofPlain [p]
    | .any newline => return any newline
    | .anchor a => return anchor a
    | .row ps => ofRow references inner (some []) ps
    | .choice ps => ofBranches references inner ps
    | .group i a => return group i (← ofPattern references inner a)
    | .repeated 0 (some 1) greedy a => return optional greedy (← ofPattern references inner a)
    | .repeated low high greedy a => do
      repetition a.minLength low high greedy (← ofPattern references true a)
    | .look .behind negated (.choice ps) =>
      if (Pattern.choice ps).isFixed then do
        let body ←
          if Pattern.areBranching references ps then ofBranches references false ps
          else ofPlain [.choice ps]
        lookAt .behind negated true (Pattern.leastMinLength ps) body
      else lookBehind references negated ps
    | .look side negated a => do
      lookAt side negated a.isFixed a.minLength (← ofPattern references false a)
    | .backreference i => return backreference i
    | .begun i => return begun i
    | .atomic a => return atomic (← ofPattern references false a)
    | .keep => return keep
    | .resume => return resume
    | .conditional test yes no => do
      return conditional (← ofPattern references inner test) (← ofPattern references inner yes)
        (← ofPattern references inner no)

/-- Compile parts in a row. Those of fixed length at the front are collected in `opening`, those at the
end are taken together; without `inner` the latter may have any length. -/
def ofRow (references : List Nat) (inner : Bool) (opening : Option (List Pattern)) :
    List Pattern → Build Program
  | [] => ofPlain (opening.getD [])
  | p :: ps =>
    if opening.isSome && p.isFixed && !p.isBranching references then
      ofRow references inner (opening.map (· ++ [p])) ps
    else do
      let first ← ofPlain (opening.getD [])
      let rest ←
        if (p :: ps).all fun q => !q.isBranching references && (!inner || q.isFixed) then
          ofPlain (p :: ps)
        else
          pure (seq (← ofPattern references true p) (← ofRow references inner none ps))
      return seq first rest

/-- Compile branches. -/
def ofBranches (references : List Nat) (inner : Bool) : List Pattern → Build Program
  | [] => return empty
  | [p] => ofPattern references inner p
  | p :: q :: ps => do
    return choice (← ofPattern references inner p) (← ofBranches references inner (q :: ps))

/-- Look behind for branches of different lengths one by one: one of them must match, or with
`negated` none of them. -/
def lookBehind (references : List Nat) (negated : Bool) : List Pattern → Build Program
  | [] => return empty
  | p :: ps => do
    let first ← lookAt .behind negated p.isFixed p.minLength (← ofPattern references false p)
    if ps.isEmpty then return first
    else if negated then return seq first (← lookBehind references negated ps)
    else return choice first (← lookBehind references negated ps)

end

end Program

/-- The program of a pattern, if it compiles. -/
def Pattern.program? (p : Pattern) : Option Program :=
  (Program.ofPattern p.references true p).run' 0

end Phrasebook.Regex
