import Phrasebook.Regex.Bracket
import Phrasebook.Regex.Progress
import Phrasebook.Unicode.Query

/-!
# Escapes and brackets

What follows a backslash stands for a character, a set of characters, an anchor or a reference; some
escapes have another meaning in brackets. An ASCII letter that has no meaning is malformed, any other
character stands for itself.
-/

namespace Phrasebook.Regex

open Unicode (CharSet)

namespace Parse

/-- What an escape stands for. -/
inductive Escape where
  | char (c : Char) (fold : Bool)
  | set (s : CharSet)
  /-- The hexadecimal digits, or all other characters. -/
  | hexDigits (negated : Bool)
  | pattern (p : Pattern)

/-- The ASCII letters and digits of hexadecimal numerals. -/
def isHex (c : Char) : Bool :=
  c.isDigit || ('a' ≤ c && c ≤ 'f') || ('A' ≤ c && c ≤ 'F')

/-- The number that hexadecimal digits stand for. -/
def ofHex (ds : List Char) : Nat :=
  ds.foldl (fun n c => 16 * n +
    if c.isDigit then c.toNat - '0'.toNat else c.toLower.toNat - 'a'.toNat + 10) 0

/-- The character of a code point. -/
def charOf (n : Nat) : Parse Char :=
  if n.isValidChar then return Char.ofNat n else failure

/-- A character by its code point: `count` hexadecimal digits, or one to eight in braces. -/
def hexEscape (count : Nat) : Parse Char := do
  let cs ← rest
  let fixed := cs.take count
  if fixed.length = count ∧ fixed.all isHex then
    goOn (cs.drop count)
    charOf (ofHex fixed)
  else
    expect '{'
    let digits ← takeWhile isHex
    expect '}'
    if digits.isEmpty ∨ 8 < digits.length then failure else charOf (ofHex digits)

/-- The characters of a property: its name is one letter, or any text in braces. -/
def propertyEscape (fold negated : Bool) : Parse CharSet := do
  let name ←
    if ← takes '{' then do
      let name ← takeWhile (· ≠ '}')
      expect '}'
      pure name
    else do
      let c ← next
      if c = '\\' then failure else pure [c]
  match Unicode.Query.find? name with
  | some s => return (s.foldIf fold).negateIf negated
  | none => failure

/-- The characters that are escaped by a letter. -/
def controlChar? : Char → Option Char
  | 'a' => some '\x07'
  | 'e' => some '\x1b'
  | 'f' => some '\x0c'
  | 'n' => some '\n'
  | 'r' => some '\r'
  | 't' => some '\t'
  | 'v' => some '\x0b'
  | _ => none

/-- The escapes that stand for themselves in brackets, and for a pattern elsewhere. -/
def patternEscape? : Char → Option Pattern
  | 'A' => some (.anchor .textStart)
  | 'z' => some (.anchor .textEnd)
  | 'B' => some (.anchor .noWordBoundary)
  | '<' => some (.anchor .wordStart)
  | '>' => some (.anchor .wordEnd)
  | 'K' => some .keep
  | 'G' => some .resume
  | _ => none

/-- Read an escape after its backslash that means the same in brackets and elsewhere. -/
def commonEscape (c : Char) : Parse Escape := do
  let fold := (← get).flags.fold
  match c with
  | 'd' | 'D' => return .set (Unicode.Property.digit.negateIf (c = 'D'))
  | 's' | 'S' => return .set (Unicode.Property.blank.negateIf (c = 'S'))
  | 'w' | 'W' => return .set (Unicode.Property.word.negateIf (c = 'W'))
  | 'h' | 'H' => return .hexDigits (c = 'H')
  | 'p' | 'P' => return .set (← propertyEscape fold (c = 'P'))
  | 'x' => return .char (← hexEscape 2) fold
  | 'u' => return .char (← hexEscape 4) fold
  | 'U' => return .char (← hexEscape 8) fold
  | c =>
    match controlChar? c with
    | some d => return .char d false
    | none => if c.isAlphanum then failure else return .char c false

/-- Read an escape in brackets. -/
def bracketEscape : Parse Escape := do
  match ← next with
  | 'b' => return .char '\x08' false
  | 'k' => return .char 'k' false
  | c => if (patternEscape? c).isSome then return .char c false else commonEscape c

/-- Read an escape outside of brackets. -/
def escape : Parse Escape := do
  let cs ← rest
  let c ← next
  if c.isDigit then
    goOn cs
    return .pattern (.backreference (← numberedReference))
  else if c = 'k' then
    let closing ← if ← takes '\'' then pure '\'' else do expect '<'; pure '>'
    return .pattern (.backreference (← relativeReference closing))
  else if (c = 'b' ∨ c = 'B') ∧ (← rest).head? = some '{' then failure
  else if c = 'b' then return .pattern (.anchor .wordBoundary)
  else
    match patternEscape? c with
    | some p => return .pattern p
    | none => commonEscape c

/-! ## Bracketed sets -/

/-- The hexadecimal digits as they are written in brackets. -/
def hexDigitTokens (negated : Bool) : List Bracket.Token :=
  ("[".toList ++ (if negated then ['^'] else []) ++ "0-9A-Fa-f]".toList).map .sign

/-- The tokens of an escape in brackets. -/
def escapeTokens : Escape → Parse (List Bracket.Token)
  | .char c _ => return [.ofEscaped c]
  | .set s => return [.set s]
  | .hexDigits negated => return hexDigitTokens negated
  | .pattern _ => failure

/-- Read the tokens of a bracketed set up to the bracket that closes the first of `unclosed` ones. -/
def bracketTokens : (fuel unclosed : Nat) → Parse (List Bracket.Token)
  | 0, _ => failure
  | fuel + 1, unclosed => do
    match ← next with
    | '\\' =>
      let tokens ← escapeTokens (← bracketEscape)
      return tokens ++ (← bracketTokens fuel unclosed)
    | '[' => return .sign '[' :: (← bracketTokens fuel (unclosed + 1))
    | ']' =>
      if unclosed = 1 then return [.sign ']']
      else return .sign ']' :: (← bracketTokens fuel (unclosed - 1))
    | c => return .sign c :: (← bracketTokens fuel unclosed)

/-- Read a bracketed set after its opening bracket. Brackets are counted first; if the set ends before
they are balanced, the characters after it stand for themselves. -/
def bracketed : Parse Pattern := do
  let fold := (← get).flags.fold
  let caret ← takes '^'
  let closing ← takes ']'
  let tokens ← bracketTokens ((← rest).length + 1) 1
  let leading := (if caret then [.sign '^'] else []) ++ (if closing then [.plain ']'] else [])
  match Bracket.read? fold (leading ++ tokens) with
  | some (s, more) => return .sets (s :: more.map fun t => t.chars.foldIf fold) fold
  | none => failure

end Parse

end Phrasebook.Regex
