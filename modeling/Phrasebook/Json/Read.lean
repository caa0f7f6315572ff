import Phrasebook.Json.Basic
import Phrasebook.Number.Numeral

/-!
# Reading JSON

**Readers.** A reader takes the characters that are left and returns what it read with the rest, or
a fault: a problem, and the characters that were left when it showed.

**Limits.** At most 127 arrays and objects may be nested, and a number must fit a double. A reading
that is only to skip a value (`Mode.skip`) checks neither, nor whether surrogates come in pairs.

**Numbers.** A whole number of 64 bits is kept as it is. Of any other number the leading digits
that fit 64 bits are one whole number, which is then scaled by a power of ten.

**Places.** A fault is told by its line and by the count of bytes read in that line.
-/

namespace Phrasebook.Json

/-- What can be wrong with a text that should be JSON. -/
inductive Problem where
  | eofList
  | eofObject
  | eofString
  | eofValue
  | expectedColon
  | expectedListEnd
  | expectedObjectEnd
  | expectedIdentifier
  | expectedValue
  | invalidEscape
  | invalidNumber
  | numberOutOfRange
  | controlCharacter
  | keyMustBeString
  | loneSurrogate
  | trailingComma
  | trailingCharacters
  | unexpectedEndOfEscape
  | tooDeep
  /-- JSON of another shape than was asked for. -/
  | wrongShape
  deriving DecidableEq, Repr

/-- The class of a problem: the text ends too early, is no JSON, or is JSON of the wrong shape. -/
inductive ProblemClass where
  | eof
  | malformed
  | shape
  deriving DecidableEq, Repr

namespace Problem

/-- The class that a problem belongs to. -/
def kind : Problem → ProblemClass
  | eofList | eofObject | eofString | eofValue => .eof
  | wrongShape => .shape
  | _ => .malformed

/-- The wording of a problem. -/
def message : Problem → String
  | eofList => "EOF while parsing a list"
  | eofObject => "EOF while parsing an object"
  | eofString => "EOF while parsing a string"
  | eofValue => "EOF while parsing a value"
  | expectedColon => "expected `:`"
  | expectedListEnd => "expected `,` or `]`"
  | expectedObjectEnd => "expected `,` or `\x7d`"
  | expectedIdentifier => "expected ident"
  | expectedValue => "expected value"
  | invalidEscape => "invalid escape"
  | invalidNumber => "invalid number"
  | numberOutOfRange => "number out of range"
  | controlCharacter => "control character (\\u0000-\\u001F) found while parsing a string"
  | keyMustBeString => "key must be a string"
  | loneSurrogate => "lone leading surrogate in hex escape"
  | trailingComma => "trailing comma"
  | trailingCharacters => "trailing characters"
  | unexpectedEndOfEscape => "unexpected end of hex escape"
  | tooDeep => "recursion limit exceeded"
  | wrongShape => "invalid type"

end Problem

/-- A problem and where it showed: the characters left, and how many bytes of them are part of the
trouble. -/
structure Fault where
  problem : Problem
  rest : List Char
  ahead : Nat

/-- A reader of the characters that are left. -/
abbrev Reader (α : Type) := List Char → Except Fault (α × List Char)

/-- A problem with the next byte, or with the end of the text. -/
def faultAt {α : Type} (problem : Problem) (rest : List Char) : Except Fault α :=
  .error ⟨problem, rest, 1⟩

/-- A problem with what was read last. -/
def faultBefore {α : Type} (problem : Problem) (rest : List Char) : Except Fault α :=
  .error ⟨problem, rest, 0⟩

/-- What a value is read for. -/
inductive Mode where
  /-- To be used; of members of one name the last one stays. -/
  | keep
  /-- To be used with every member of its objects, in the order of the text. -/
  | keepAll
  /-- To be skipped. -/
  | skip
  deriving DecidableEq

/-- Drop the blanks that may stand between tokens. -/
def skipBlanks (cs : List Char) : List Char :=
  cs.dropWhile fun c => c = ' ' ∨ c = '\n' ∨ c = '\t' ∨ c = '\r'

namespace Read

/-! ## Words and numbers -/

/-- Read the rest of a word that stands for a value. -/
def word (value : Json) : List Char → Reader Json
  | [], cs => .ok (value, cs)
  | _ :: _, [] => faultBefore .eofValue []
  | expected :: more, c :: cs =>
    if c = expected then word value more cs else faultAt .expectedIdentifier (c :: cs)

/-- Append digits to a number while it fits 64 bits; the digits that no longer do are left. -/
def absorb (n : Nat) : List Char → Nat × List Char
  | [] => (n, [])
  | d :: ds =>
    let next := 10 * n + Number.digitValue d
    if next < UInt64.size then absorb next ds else (n, d :: ds)

/-- The whole number `n`, rounded to a double, times a power of ten, unless that is too large. At
most `steps` divisions bring a very small power into the range of doubles. -/
def scaleByTen (f : Float) (e : Int) : Nat → Option Float
  | 0 => some 0.0
  | steps + 1 =>
    if e.natAbs ≤ 308 then
      let power := Number.Decimal.toFloat ⟨1, e.natAbs⟩ Number.double false
      if e ≥ 0 then
        let product := f * power
        if product.isInf then none else some product
      else some (f / power)
    else if f == 0.0 then some f
    else if e ≥ 0 then none
    else scaleByTen (f / Number.Decimal.toFloat ⟨1, 308⟩ Number.double false) (e + 308) steps

/-- A number from its leading digits and its exponent. -/
def scaled (mode : Mode) (negative : Bool) (n : Nat) (e : Int) : Reader Numeral := fun rest =>
  match scaleByTen n.toUInt64.toFloat e 8 with
  | some x => .ok (.double (if negative then -x else x), rest)
  | none => if mode = .skip then .ok (.integer 0, rest) else faultBefore .numberOutOfRange rest

/-- The problem with a number that ends too early. -/
def shortNumber (mode : Mode) : Problem :=
  if mode = .skip then .invalidNumber else .eofValue

/-- Read the exponent of a number, after its letter. An exponent beyond 31 bits makes the number
zero or too large. -/
def exponent (mode : Mode) (negative : Bool) (n : Nat) (e : Int) : Reader Numeral := fun cs =>
  let (below, cs) := Number.splitSign cs
  match cs with
  | [] => faultAt (shortNumber mode) []
  | c :: _ =>
    if !c.isDigit then faultAt .invalidNumber cs
    else
      let digits := cs.takeWhile Char.isDigit
      let rest := cs.dropWhile Char.isDigit
      let fitting := (List.range digits.length).find? fun k =>
        Int32.maxValue.toInt < Number.ofDigits (digits.take (k + 1))
      match fitting with
      | some k =>
        if n ≠ 0 ∧ !below ∧ mode ≠ .skip then faultBefore .numberOutOfRange (cs.drop (k + 1))
        else .ok (.double (if negative then -0.0 else 0.0), rest)
      | none => scaled mode negative n (e + Number.signed below (Number.ofDigits digits)) rest

/-- Read the digits after the point. -/
def fraction (mode : Mode) (negative : Bool) (n : Nat) (e : Int) : Reader Numeral := fun cs =>
  let digits := cs.takeWhile Char.isDigit
  let rest := cs.dropWhile Char.isDigit
  if digits.isEmpty then
    if rest.isEmpty then faultAt (shortNumber mode) [] else faultAt .invalidNumber rest
  else
    let (n, left) := absorb n digits
    let e := e - (digits.length - left.length : Nat)
    match rest with
    | 'e' :: rest | 'E' :: rest => exponent mode negative n e rest
    | rest => scaled mode negative n e rest

/-- Read a number after its sign. -/
def numeral (mode : Mode) (negative : Bool) : Reader Numeral := fun cs =>
  match cs with
  | [] => faultBefore (shortNumber mode) []
  | c :: after =>
    if !c.isDigit then faultAt .invalidNumber cs
    else if c = '0' ∧ (after.head?.map Char.isDigit).getD false then faultAt .invalidNumber after
    else
      let (n, left) := absorb 0 (cs.takeWhile Char.isDigit)
      let rest := cs.dropWhile Char.isDigit
      match rest with
      | '.' :: rest => fraction mode negative n left.length rest
      | 'e' :: rest | 'E' :: rest => exponent mode negative n left.length rest
      | rest =>
        if !left.isEmpty then scaled mode negative n left.length rest
        else if !negative then .ok (.integer n, rest)
        else if n = 0 ∨ -n < Int64.minValue.toInt then .ok (.double (-n.toUInt64.toFloat), rest)
        else .ok (.integer (-n), rest)

/-! ## Strings -/

/-- The value of a hexadecimal digit. -/
def hexValue? (c : Char) : Option Nat :=
  if c.isDigit then some (c.toNat - '0'.toNat)
  else if 'a' ≤ c ∧ c ≤ 'f' then some (c.toNat - 'a'.toNat + 10)
  else if 'A' ≤ c ∧ c ≤ 'F' then some (c.toNat - 'A'.toNat + 10)
  else none

/-- Read four hexadecimal digits. They are taken as four bytes, which may end inside a character that
is none. -/
def fourHex : Reader Nat := fun cs =>
  match (cs.take 4).mapM hexValue?, cs.drop 4 with
  | some [a, b, c, d], rest => .ok (((a * 16 + b) * 16 + c) * 16 + d, rest)
  | _, _ =>
    if (String.ofList (cs.take 4)).utf8ByteSize < 4 then faultBefore .eofString []
    else .error ⟨.invalidEscape, cs, 4⟩

/-- A code unit that begins a pair. -/
def isLeading (n : Nat) : Bool :=
  0xD800 ≤ n && n ≤ 0xDBFF

/-- A code unit that ends a pair. -/
def isTrailing (n : Nat) : Bool :=
  0xDC00 ≤ n && n ≤ 0xDFFF

/-- Read the character of an escape by number, after its letter. Surrogates must come in pairs. -/
def unicodeEscape (mode : Mode) : Reader Char := fun cs => do
  let (n, rest) ← fourHex cs
  if mode = .skip then return (Char.ofNat n, rest)
  if isTrailing n then faultBefore .loneSurrogate rest
  else if !isLeading n then return (Char.ofNat n, rest)
  else
    match rest with
    | [] => faultBefore .eofString []
    | c :: rest =>
      if c ≠ '\\' then faultAt .unexpectedEndOfEscape (c :: rest)
      else
        match rest with
        | [] => faultBefore .eofString []
        | d :: rest =>
          if d ≠ 'u' then faultAt .unexpectedEndOfEscape (d :: rest)
          else
            let (m, rest) ← fourHex rest
            if isTrailing m then
              return (Char.ofNat ((n - 0xD800) * 0x400 + (m - 0xDC00) + 0x10000), rest)
            else faultBefore .loneSurrogate rest

/-- The character of a one-letter escape. -/
def letterEscape? : Char → Option Char
  | '"' => some '"'
  | '\\' => some '\\'
  | '/' => some '/'
  | 'b' => some '\x08'
  | 'f' => some '\x0c'
  | 'n' => some '\n'
  | 'r' => some '\r'
  | 't' => some '\t'
  | _ => none

/-- Read up to the closing quote; `seen` holds the characters read so far, the last one first. The
count of characters left bounds the steps. -/
def stringTail (mode : Mode) (seen : List Char) : Nat → Reader String
  | 0, _ => faultBefore .eofString []
  | _, [] => faultBefore .eofString []
  | _, '"' :: rest => .ok (String.ofList seen.reverse, rest)
  | _, ['\\'] => faultBefore .eofString []
  | steps + 1, '\\' :: 'u' :: rest => do
    let (c, rest) ← unicodeEscape mode rest
    stringTail mode (c :: seen) steps rest
  | steps + 1, '\\' :: c :: rest =>
    match letterEscape? c with
    | some d => stringTail mode (d :: seen) steps rest
    | none => faultAt .invalidEscape (c :: rest)
  | steps + 1, c :: rest =>
    if c.toNat < 0x20 then faultAt .controlCharacter (c :: rest)
    else stringTail mode (c :: seen) steps rest

/-- Read a string after its opening quote. -/
def quoted (mode : Mode) : Reader String := fun cs =>
  stringTail mode [] cs.length cs

/-! ## Values -/

/-- Read the colon between a name and its value. -/
def colon : Reader Unit := fun cs =>
  match skipBlanks cs with
  | ':' :: rest => .ok ((), rest)
  | [] => faultAt .eofObject []
  | rest => faultAt .expectedColon rest

/-- What comes next in an array or object: its end, or another entry. -/
inductive Next where
  | done
  | entry

/-- Look for the next item of an array. -/
def nextItem (first : Bool) : Reader Next := fun cs =>
  match first, skipBlanks cs with
  | _, [] => faultAt .eofList []
  | _, ']' :: rest => .ok (.done, rest)
  | false, ',' :: rest =>
    match skipBlanks rest with
    | [] => faultAt .eofValue []
    | ']' :: rest => faultAt .trailingComma (']' :: rest)
    | rest => .ok (.entry, rest)
  | false, rest => faultAt .expectedListEnd rest
  | true, rest => .ok (.entry, rest)

/-- Look for the next member of an object; its name follows, without the opening quote. -/
def nextMember (first : Bool) : Reader Next := fun cs =>
  match first, skipBlanks cs with
  | _, [] => faultAt .eofObject []
  | _, '\x7d' :: rest => .ok (.done, rest)
  | false, ',' :: rest =>
    match skipBlanks rest with
    | [] => faultAt .eofValue []
    | '"' :: rest => .ok (.entry, rest)
    | '\x7d' :: rest => faultAt .trailingComma ('\x7d' :: rest)
    | rest => faultAt .keyMustBeString rest
  | false, rest => faultAt .expectedObjectEnd rest
  | true, '"' :: rest => .ok (.entry, rest)
  | true, rest => faultAt .keyMustBeString rest

mutual

/-- Read a value. `depth` is one more than the number of arrays and objects that may still be
opened; `fuel` bounds the steps. -/
def value (mode : Mode) (fuel depth : Nat) : Reader Json := fun cs =>
  match fuel with
  | 0 => faultAt .tooDeep cs
  | fuel + 1 =>
    match skipBlanks cs with
    | [] => faultAt .eofValue []
    | 'n' :: rest => word .null ['u', 'l', 'l'] rest
    | 't' :: rest => word (.boolean true) ['r', 'u', 'e'] rest
    | 'f' :: rest => word (.boolean false) ['a', 'l', 's', 'e'] rest
    | '"' :: rest => do
      let (s, rest) ← quoted mode rest
      return (.string s, rest)
    | '[' :: rest =>
      if depth ≤ 1 ∧ mode ≠ .skip then faultAt .tooDeep ('[' :: rest)
      else do
        let (items, rest) ← items mode fuel (depth - 1) true rest
        return (.array items, rest)
    | '\x7b' :: rest =>
      if depth ≤ 1 ∧ mode ≠ .skip then faultAt .tooDeep ('\x7b' :: rest)
      else do
        let (entries, rest) ← members mode fuel (depth - 1) true rest
        return (.object (if mode = .keepAll then entries else Dict.ofList entries), rest)
    | '-' :: rest => do
      let (n, rest) ← numeral mode true rest
      return (.number n, rest)
    | c :: rest =>
      if c.isDigit then do
        let (n, rest) ← numeral mode false (c :: rest)
        return (.number n, rest)
      else faultAt .expectedValue (c :: rest)

/-- Read the items of an array up to its end. -/
def items (mode : Mode) (fuel depth : Nat) (first : Bool) : Reader (List Json) := fun cs =>
  match fuel with
  | 0 => faultAt .tooDeep cs
  | fuel + 1 => do
    let (next, rest) ← nextItem first cs
    match next with
    | .done => return ([], rest)
    | .entry =>
      let (item, rest) ← value mode fuel depth rest
      let (more, rest) ← items mode fuel depth false rest
      return (item :: more, rest)

/-- Read the members of an object up to its end. -/
def members (mode : Mode) (fuel depth : Nat) (first : Bool) : Reader (List (String × Json)) :=
  fun cs =>
    match fuel with
    | 0 => faultAt .tooDeep cs
    | fuel + 1 => do
      let (next, rest) ← nextMember first cs
      match next with
      | .done => return ([], rest)
      | .entry =>
        let (name, rest) ← quoted mode rest
        let ((), rest) ← colon rest
        let (v, rest) ← value mode fuel depth rest
        let (more, rest) ← members mode fuel depth false rest
        return ((name, v) :: more, rest)

end

/-- As many steps as a reading of the characters can take. -/
def stepsFor (cs : List Char) : Nat :=
  2 * cs.length + 2

/-- Check that only blanks are left. -/
def finish (cs : List Char) : Except Fault Unit :=
  match skipBlanks cs with
  | [] => .ok ()
  | rest => faultAt .trailingCharacters rest

end Read

/-! ## Whole texts -/

/-- A problem with its line and the count of bytes read in that line. -/
structure ReadError where
  problem : Problem
  line : Nat
  column : Nat
  deriving DecidableEq, Repr

/-- The wording of an error with its place. -/
def ReadError.message (e : ReadError) : String :=
  e.problem.message ++ " at line " ++ toString e.line ++ " column " ++ toString e.column

/-- The place after a number of bytes: line, and bytes in the line. A part of a character counts by
its bytes. -/
def placeAfter : Nat → Nat × Nat → List Char → Nat × Nat
  | 0, place, _ | _, place, [] => place
  | n + 1, (line, column), c :: cs =>
    if c = '\n' then placeAfter n (line + 1, 0) cs
    else if c.utf8Size ≤ n then placeAfter (n + 1 - c.utf8Size) (line, column + c.utf8Size) cs
    else (line, column + n + 1)

/-- The count of bytes of characters. -/
def byteCount (cs : List Char) : Nat :=
  cs.foldl (fun n c => n + c.utf8Size) 0

/-- Locate a fault in the text that was read. -/
def Fault.locate (text : List Char) (fault : Fault) : ReadError :=
  let bytes := byteCount (text.take (text.length - fault.rest.length)) + fault.ahead
  let (line, column) := placeAfter bytes (1, 0) text
  ⟨fault.problem, line, column⟩

/-- Read a whole text with a reader. -/
def readAll {α : Type} (reader : Reader α) (text : String) : Except ReadError α :=
  let cs := text.toList
  match reader cs with
  | .error fault => .error (fault.locate cs)
  | .ok (a, rest) =>
    match Read.finish rest with
    | .error fault => .error (fault.locate cs)
    | .ok () => .ok a

/-- Read a text that holds one JSON value. -/
def ofText (text : String) : Except ReadError Json :=
  readAll (Read.value .keep (Read.stepsFor text.toList) 128) text

end Phrasebook.Json
