import Phrasebook.Unicode.Folding

/-!
# Bracketed sets of characters

What stands between brackets is a row of members: characters, ranges, sets, and brackets inside the
brackets, which may also name a set of ASCII characters as in `[:alpha:]`. A caret in front asks for
the complement. Dashes in front, a closing bracket in front, and a dash at the end stand for
themselves. `&&`, `--` and `~~` combine all that stands before them with what follows, up to the next
of them. When case is folded, this is done before sets are combined or complemented.
-/

namespace Phrasebook.Regex.Bracket

open Unicode (CharSet)

/-- A piece of what stands between brackets. -/
inductive Token where
  /-- A character that may have a meaning of its own. -/
  | sign (c : Char)
  /-- A character that stands for itself. -/
  | plain (c : Char)
  | set (s : CharSet)
  deriving DecidableEq, Repr

namespace Token

/-- A character that was escaped. Only a few need that to stand for themselves. -/
def ofEscaped (c : Char) : Token :=
  if ['[', ']', '^', '-', '&', '~'].contains c then plain c else sign c

/-- The character of a token, if it is one. -/
def char? : Token → Option Char
  | sign c | plain c => some c
  | set _ => none

/-- The characters that a token stands for. -/
def chars : Token → CharSet
  | sign c | plain c => .single c
  | set s => s

end Token

/-- The ways to combine two sets. -/
inductive Combination where
  | common
  | difference
  | eitherOnly
  deriving DecidableEq, Repr

/-- Combine two sets. -/
def Combination.apply : Combination → CharSet → CharSet → CharSet
  | common => CharSet.inter
  | difference => CharSet.diff
  | eitherOnly => CharSet.symmDiff

/-- The signs that combine sets, each written twice. -/
def combination? : Char → Option Combination
  | '&' => some .common
  | '-' => some .difference
  | '~' => some .eitherOnly
  | _ => none

/-- Which signs stand for themselves at the place that was reached in brackets. -/
inductive Stage where
  /-- After the opening bracket, where a caret has a meaning. -/
  | opened
  /-- Before the first member: a dash or a closing bracket. -/
  | first
  /-- After dashes in front: further dashes. -/
  | dashes
  | members
  deriving DecidableEq, Repr

/-- Brackets that have not been closed. -/
structure Level where
  stage : Stage := .opened
  negated : Bool := false
  /-- What is to be combined with the members, and how. -/
  pending : Option (CharSet × Combination) := none
  members : CharSet := .empty

namespace Level

/-- Add members. -/
def add (l : Level) (s : CharSet) : Level :=
  { l with stage := .members, members := l.members.union s }

/-- What was read so far, with all combinations done. -/
def combined (fold : Bool) (l : Level) : CharSet :=
  match l.pending with
  | none => l.members
  | some (s, how) => how.apply (s.foldIf fold) (l.members.foldIf fold)

/-- Wait for the members with which to combine what was read so far. -/
def combine (fold : Bool) (l : Level) (how : Combination) : Level :=
  { l with stage := .members, pending := some (l.combined fold, how), members := .empty }

/-- The set that the brackets stand for. -/
def value (fold : Bool) (l : Level) : CharSet :=
  ((l.combined fold).foldIf fold).negateIf l.negated

/-- Take a token that has a meaning of its own near the opening bracket. -/
def lead? (l : Level) (t : Token) : Option Level :=
  match l.stage, t with
  | .opened, .sign '^' => some { l with stage := .first, negated := true }
  | .opened, .sign '-' | .first, .sign '-' | .dashes, .sign '-' =>
    some { l.add (.single '-') with stage := .dashes }
  | .opened, .sign ']' | .first, .sign ']' => some (l.add (.single ']'))
  | _, _ => none

end Level

/-- The sets of ASCII characters that have names, as ranges. -/
def asciiRanges? (name : String) : Option (List (Char × Char)) :=
  match name with
  | "alnum" => some [('0', '9'), ('A', 'Z'), ('a', 'z')]
  | "alpha" => some [('A', 'Z'), ('a', 'z')]
  | "ascii" => some [('\x00', '\x7f')]
  | "blank" => some [('\t', '\t'), (' ', ' ')]
  | "cntrl" => some [('\x00', '\x1f'), ('\x7f', '\x7f')]
  | "digit" => some [('0', '9')]
  | "graph" => some [('!', '~')]
  | "lower" => some [('a', 'z')]
  | "print" => some [(' ', '~')]
  | "punct" => some [('!', '/'), (':', '@'), ('[', '\x60'), ('\x7b', '~')]
  | "space" => some [('\t', '\r'), (' ', ' ')]
  | "upper" => some [('A', 'Z')]
  | "word" => some [('0', '9'), ('A', 'Z'), ('_', '_'), ('a', 'z')]
  | "xdigit" => some [('0', '9'), ('A', 'F'), ('a', 'f')]
  | _ => none

/-- The set of a name such as `[:alpha:]`, of which the opening bracket was read, and the number of
tokens of the rest. -/
def named? (fold : Bool) (ts : List Token) : Option (CharSet × Nat) :=
  match ts with
  | .sign ':' :: ts =>
    let (negated, ts) :=
      match ts with
      | .sign '^' :: ts => (true, ts)
      | ts => (false, ts)
    let name := ts.takeWhile (· ≠ .sign ':')
    match ts.drop name.length with
    | .sign ':' :: .sign ']' :: _ => do
      let letters ← name.mapM Token.char?
      let ranges ← asciiRanges? (String.ofList letters)
      let s := CharSet.ofRanges (ranges.map fun (a, b) => (a.toNat, b.toNat))
      return ((s.foldIf fold).negateIf negated, name.length + (if negated then 4 else 3))
    | _ => none
  | _ => none

/-- The range between two tokens, which must be characters in order. -/
def range? (first last : Token) : Option CharSet := do
  let low ← first.char?
  let high ← last.char?
  if high < low then none else return .range low.toNat high.toNat

/-- A member and the number of tokens it takes after its first: two if a dash and the end of a range
follow, else none. -/
def member? (t : Token) (rest : List Token) : Option (CharSet × Nat) :=
  match rest with
  | .sign '-' :: last :: _ =>
    if last = .sign ']' ∨ last = .sign '-' then some (t.chars, 0)
    else (range? t last).map fun s => (s, 2)
  | _ => some (t.chars, 0)

/-- The combination that a token starts, if the next one is the same sign. -/
def combinationOf? (t : Token) (rest : List Token) : Option Combination :=
  match t with
  | .sign c => if rest.head? = some t then combination? c else none
  | _ => none

/-- What brackets become with a token that neither opens nor closes any, and the number of tokens
that it takes along. -/
def Level.take? (fold : Bool) (l : Level) (t : Token) (rest : List Token) : Option (Level × Nat) :=
  match combinationOf? t rest with
  | some how => some (l.combine fold how, 1)
  | none => (member? t rest).map fun (s, n) => (l.add s, n)

/-- Read up to the end of all brackets; `outer` are those around the present ones. -/
def readFrom (fold : Bool) (outer : List Level) (l : Level) :
    List Token → Option (CharSet × List Token)
  | [] => none
  | t :: rest =>
    match l.lead? t with
    | some l => readFrom fold outer l rest
    | none =>
      if t = .sign '[' then
        match named? fold rest with
        | some (s, n) => readFrom fold outer (l.add s) (rest.drop n)
        | none => readFrom fold ({ l with stage := .members } :: outer) {} rest
      else if t = .sign ']' then
        match outer with
        | [] => some (l.value fold, rest)
        | up :: outer => readFrom fold outer (up.add (l.value fold)) rest
      else
        match l.take? fold t rest with
        | some (l, n) => readFrom fold outer l (rest.drop n)
        | none => none
termination_by ts => ts.length
decreasing_by all_goals simp [List.length_drop]; try omega

/-- Read what follows an opening bracket: the set, and what is left after its closing bracket. -/
def read? (fold : Bool) (ts : List Token) : Option (CharSet × List Token) :=
  readFrom fold [] {} ts

end Phrasebook.Regex.Bracket
