import Phrasebook.Regex.Escape

/-!
# Reading patterns

**Grammar.** Branches stand between bars, a branch is a row of pieces, a piece is an atom with an
optional repetition: `*`, `+`, `?` or counts in braces, made lazy by a question mark and unyielding
by a plus. A brace that starts no counts stands for itself. Atoms are characters, escapes, bracketed
sets, anchors and groups.

**Groups.** Groups that remember are numbered from one by their opening parentheses, and may have a
name. A reference back needs a group that was opened before it, and numbered references do not go
with named groups.

**Flags.** `i` folds case, `m` makes `^` and `$` match at lines, `s` lets the point match a newline,
`U` swaps lazy and greedy, `x` ignores blanks and lines after `#`. They hold up to the end of the flag
group they are set in. Comments such as `(?# so)` are always ignored.
-/

namespace Phrasebook.Regex

open Unicode (CharSet)

namespace Parse

/-! ## Repetitions -/

/-- Counts in braces, of which the opening one was read. -/
def counts : Parse (Nat × Option Nat) := do
  skipIgnored
  let low ← if (← rest).head? = some ',' then pure (some 0) else count?
  skipIgnored
  match low, ← next with
  | some n, '}' => return (n, bound n)
  | some n, ',' =>
    skipIgnored
    let high ← count?
    skipIgnored
    expect '}'
    return (n, high.bind bound)
  | _, _ => failure
where
  /-- The largest count stands for none. -/
  bound (n : Nat) : Option Nat :=
    if n + 1 = countLimit then none else some n

/-- The bounds of a repetition, if one comes next. -/
def bounds? : Parse (Option (Nat × Option Nat)) := do
  let p ← get
  match p.rest with
  | '?' :: cs =>
    goOn cs
    return some (0, some 1)
  | '*' :: cs =>
    goOn cs
    return some (0, none)
  | '+' :: cs =>
    goOn cs
    return some (1, none)
  | '{' :: cs =>
    match counts.run { p with rest := cs } with
    | some (bounds, after) =>
      set after
      return some bounds
    | none => return none
  | _ => return none

/-- Whether a pattern may be repeated. -/
def isRepeatable : Pattern → Bool
  | .empty | .anchor _ | .look .. => false
  | _ => true

/-- A pattern with the repetition that follows it. -/
def repetition (body : Pattern) : Parse Pattern := do
  skipIgnored
  match ← bounds? with
  | none => return body
  | some (low, high) =>
    if !isRepeatable body then failure
    else
      skipIgnored
      let lazily ← takes '?'
      let repeated := Pattern.repeated low high (lazily == (← get).flags.swapped) body
      return if ← takes '+' then .atomic repeated else repeated

/-! ## Groups -/

/-- Number the group that is being opened. -/
def openGroup : Parse Nat := do
  modify fun p => { p with groups := p.groups + 1 }
  return (← get).groups

/-- Number the group that is being opened and read its name. -/
def openNamed : Parse Nat := do
  let index ← openGroup
  let name ← nameBefore '>'
  modify fun p => { p with names := (name, index) :: p.names }
  return index

/-- How a group with flags goes on. -/
inductive FlagsEnd where
  | closed
  | colon

/-- Read the letters of a group with flags, of which `read` characters were read before. A dash, which
may come once, unsets the flags behind it; flags must not be missing. -/
def flagLetters : (fuel : Nat) → (on : Bool) → (read : Nat) → Parse FlagsEnd
  | 0, _, _ => failure
  | fuel + 1, on, read => do
    let before := (← rest).length
    skipIgnored
    let read := read + (before - (← rest).length)
    let bare := !on && read == 1
    match ← next with
    | '-' => if on then flagLetters fuel false (read + 1) else failure
    | ')' => if read = 0 ∨ bare then failure else return .closed
    | ':' => if bare then failure else return .colon
    | c =>
      match (← get).flags.put? on c with
      | some flags =>
        modify fun p => { p with flags }
        flagLetters fuel on (read + 1)
      | none => failure

/-- What a group starts with. -/
inductive Opening where
  | look (side : Side) (negated : Bool)
  | atomic
  | remembering (index : Nat)
  | condition
  | reference (index : Nat)
  /-- Flags that hold up to the end of the group, after which there are the `outer` ones again. -/
  | flagged (outer : Flags)
  | flagsOnly

/-- Read what a group starts with, after its opening parenthesis. -/
def opening : Parse Opening := do
  skipIgnored
  match ← rest with
  | '?' :: '=' :: cs => goOn cs; return .look .ahead false
  | '?' :: '!' :: cs => goOn cs; return .look .ahead true
  | '?' :: '<' :: '=' :: cs => goOn cs; return .look .behind false
  | '?' :: '<' :: '!' :: cs => goOn cs; return .look .behind true
  | '?' :: '<' :: cs => goOn cs; return .remembering (← openNamed)
  | '?' :: 'P' :: '<' :: cs => goOn cs; return .remembering (← openNamed)
  | '?' :: 'P' :: '=' :: cs => goOn cs; return .reference (← namedReference ')')
  | '?' :: '>' :: cs => goOn cs; return .atomic
  | '?' :: '(' :: cs => goOn cs; return .condition
  | '?' :: cs =>
    goOn cs
    let outer := (← get).flags
    match ← flagLetters (cs.length + 1) true 0 with
    | .closed => return .flagsOnly
    | .colon => return .flagged outer
  | _ => return .remembering (← openGroup)

/-- A condition with what was read after it, of which nothing may have been `missing`. The first
branch is for a match, and all others for none. -/
def conditionalOf (test : Pattern) (missing : Bool) (branches : Pattern) : Parse Pattern :=
  let isReference := match test with
    | .backreference _ => true
    | _ => false
  let test := match test with
    | .backreference i => .begun i
    | p => p
  if missing then if isReference then return test else failure
  else
    let (yes, no) : Pattern × Pattern := match branches with
      | .choice [yes, no] => (yes, no)
      | .choice (yes :: no) => (yes, .choice no)
      | p => (p, .empty)
    return if yes.isEmpty && no.isEmpty then test else .conditional test yes no

/-! ## Atoms, pieces, branches -/

/-- The pattern of an escape outside of brackets. -/
def ofEscape : Escape → Pattern
  | .char c fold => .literal c fold
  | .set s => .sets [s] true
  | .hexDigits negated =>
    .sets [(CharSet.ofRanges [(0x30, 0x39), (0x41, 0x46), (0x61, 0x66)]).negateIf negated] true
  | .pattern p => p

/-- The number of groups in each other at which a pattern is refused. -/
def depthLimit : Nat :=
  64

mutual

/-- Read branches up to a closing parenthesis or the end. -/
def branches : (fuel depth : Nat) → Parse Pattern
  | 0, _ => failure
  | fuel + 1, depth => do
    let first := Pattern.ofParts (← pieces fuel depth)
    skipIgnored
    if ← takes '|' then return .choice (first :: (← moreBranches fuel depth))
    else
      let p ← get
      if p.numbered && !p.names.isEmpty then failure else return first

/-- Read the branches after a bar. -/
def moreBranches : (fuel depth : Nat) → Parse (List Pattern)
  | 0, _ => failure
  | fuel + 1, depth => do
    let first := Pattern.ofParts (← pieces fuel depth)
    skipIgnored
    if ← takes '|' then return first :: (← moreBranches fuel depth) else return [first]

/-- Read the pieces of a branch. -/
def pieces : (fuel depth : Nat) → Parse (List Pattern)
  | 0, _ => failure
  | fuel + 1, depth => do
    let before := (← rest).length
    let piece ← repetition (← atom fuel depth)
    if (← rest).length = before then return []
    else
      let more ← pieces fuel depth
      return if piece.isEmpty then more else piece :: more

/-- Read an atom. Where there is none, it is empty. -/
def atom : (fuel depth : Nat) → Parse Pattern
  | 0, _ => failure
  | fuel + 1, depth => do
    skipIgnored
    let flags := (← get).flags
    match ← rest with
    | [] | '+' :: _ | '*' :: _ | '?' :: _ | '|' :: _ | ')' :: _ => return .empty
    | c :: cs =>
      goOn cs
      match c with
      | '.' => return .any flags.dotAll
      | '^' => return .anchor (if flags.lines then .lineStart else .textStart)
      | '$' => return .anchor (if flags.lines then .lineEnd else .textEnd)
      | '\\' => return ofEscape (← escape)
      | '[' => bracketed
      | '(' => if depthLimit ≤ depth + 1 then failure else group fuel (depth + 1)
      | c => return .literal c flags.fold

/-- Read a group after its opening parenthesis. -/
def group : (fuel depth : Nat) → Parse Pattern
  | 0, _ => failure
  | fuel + 1, depth => do
    match ← opening with
    | .look side negated => return .look side negated (← body fuel depth)
    | .atomic => return .atomic (← body fuel depth)
    | .remembering index => return .group index (← body fuel depth)
    | .reference index => return .backreference index
    | .flagsOnly => return .empty
    | .flagged outer =>
      let inner ← branches fuel depth
      expect ')'
      modify fun p => { p with flags := outer }
      return inner
    | .condition =>
      let test ← condition fuel depth
      expectClose
      let before := (← rest).length
      let chosen ← branches fuel depth
      let missing := (← rest).length = before
      expectClose
      conditionalOf test missing chosen

/-- Read the inside of a group with its closing parenthesis. -/
def body : (fuel depth : Nat) → Parse Pattern
  | 0, _ => failure
  | fuel + 1, depth => do
    let inner ← branches fuel depth
    expectClose
    return inner

/-- Read a condition: a reference, or any pattern. -/
def condition : (fuel depth : Nat) → Parse Pattern
  | 0, _ => failure
  | fuel + 1, depth => do
    match ← rest with
    | [] => failure
    | c :: cs =>
      if c.isDigit then return .backreference (← numberedReference)
      else if c = '\'' then
        goOn cs
        return .backreference (← relativeReference '\'')
      else if c = '<' then
        goOn cs
        return .backreference (← relativeReference '>')
      else branches fuel depth

end

end Parse

/-- Read a pattern: the pattern, and how many groups it has. -/
def Pattern.ofText? (text : String) : Option (Pattern × Nat) := do
  let cs := text.toList
  let (pattern, after) ← (Parse.branches (8 * cs.length + 8) 0).run { rest := cs }
  if after.rest.isEmpty then some (pattern, after.groups) else none

end Phrasebook.Regex
