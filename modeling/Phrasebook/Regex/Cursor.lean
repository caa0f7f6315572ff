import Phrasebook.Unicode.Property

/-!
# Places in a text

A place is kept as the characters on both sides of it, so that a step forward or back is a step on a
list. How many characters are left is kept too: of two places in one text, the one with more left
comes first.
-/

namespace Phrasebook.Regex

/-- A place in a text. -/
structure Cursor where
  /-- The characters before the place, the nearest first. -/
  before : List Char
  /-- The characters after the place. -/
  after : List Char
  /-- The number of characters after the place. -/
  left : Nat := after.length
  left_eq : left = after.length := by rfl

namespace Cursor

/-- The start of a text. -/
def ofText (text : List Char) : Cursor where
  before := []
  after := text

/-- The next character and the place behind it. -/
def next? : Cursor → Option (Char × Cursor)
  | ⟨_, [], _, _⟩ => none
  | ⟨before, c :: after, left, h⟩ =>
    some (c, ⟨c :: before, after, left - 1, by simp [h]⟩)

/-- The place one character back. -/
def back? : Cursor → Option Cursor
  | ⟨[], _, _, _⟩ => none
  | ⟨c :: before, after, left, h⟩ => some ⟨before, c :: after, left + 1, by simp [h]⟩

/-- The place some characters back. -/
def goBack? (place : Cursor) : Nat → Option Cursor
  | 0 => some place
  | n + 1 => place.back?.bind (·.goBack? n)

/-- The place behind a text that comes next. -/
def skip? (place : Cursor) : List Char → Option Cursor
  | [] => some place
  | d :: ds =>
    match place.next? with
    | some (c, next) => if c = d then next.skip? ds else none
    | none => none

/-- The text up to a later place; there is none up to an earlier one. -/
def textTo (place stop : Cursor) : List Char :=
  place.after.take (place.left - stop.left)

/-- Whether a test passes for the character before a place. -/
def holdsBefore (place : Cursor) (test : Char → Bool) : Bool :=
  place.before.head?.any test

/-- Whether a test passes for the character after a place. -/
def holdsAfter (place : Cursor) (test : Char → Bool) : Bool :=
  place.after.head?.any test

end Cursor

/-- A part of a text from one place to another. -/
structure Span where
  start : Cursor
  stop : Cursor

namespace Span

/-- The text of a span. -/
def text (s : Span) : List Char :=
  s.start.textTo s.stop

/-- Whether a span holds no characters. -/
def isEmpty (s : Span) : Bool :=
  s.start.left == s.stop.left

end Span

/-! ## Anchors -/

/-- A condition on a place, which takes up no characters. -/
inductive Anchor where
  | textStart
  | textEnd
  | lineStart
  | lineEnd
  | wordBoundary
  | noWordBoundary
  | wordStart
  | wordEnd
  deriving DecidableEq, Repr

namespace Anchor

/-- Whether an anchor looks at words. -/
def isOfWords : Anchor → Bool
  | textStart | textEnd | lineStart | lineEnd => false
  | wordBoundary | noWordBoundary | wordStart | wordEnd => true

/-- Whether an anchor holds at a place. -/
def holds (place : Cursor) : Anchor → Bool
  | textStart => place.before.isEmpty
  | textEnd => place.after.isEmpty
  | lineStart => place.before.isEmpty || place.holdsBefore (· = '\n')
  | lineEnd => place.after.isEmpty || place.holdsAfter (· = '\n')
  | wordBoundary => wordBefore != wordAfter
  | noWordBoundary => wordBefore == wordAfter
  | wordStart => !wordBefore && wordAfter
  | wordEnd => wordBefore && !wordAfter
where
  /-- Whether a character of a word stands before the place. -/
  wordBefore : Bool := place.holdsBefore Unicode.Property.word.has
  /-- Whether a character of a word stands after the place. -/
  wordAfter : Bool := place.holdsAfter Unicode.Property.word.has

end Anchor

end Phrasebook.Regex
