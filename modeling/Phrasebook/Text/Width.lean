import Phrasebook.Text.WidthTable

/-!
# Width

How many columns a text takes where characters have a fixed width.

**Alone.** A character takes one column; a wide one takes two, and one that joins the character
before it or cannot be seen takes none.

**Joined.** Some characters take another width before certain others: emoji before a selector, a
skin colour or another emoji they are joined to, letters that form one sign with the next, a carriage
return before a line feed. So a text is read from its end, and what was read last is kept as far as
it matters to the character before it (`Follower`).
-/

namespace Phrasebook.Text

namespace Width

/-- A character that chooses how the one before it is shown. -/
inductive Selector where
  | text
  | emoji
  /-- As wide as an ideograph. -/
  | wide
  deriving DecidableEq, Repr

/-- The later part of a sign that letters of a script form together. -/
inductive Ligature where
  | hebrewLamed
  | bugineseYa
  | bugineseIYa
  | tifinaghConsonant
  | tifinaghJoined
  | lisuTone
  | turkicI
  | khmerBelow
  deriving DecidableEq, Repr

/-- What was read last, as far as it matters to the character before it. -/
inductive Sign where
  | plain
  | lineFeed
  | emoji
  | skinColour
  | region
  | regions
  /-- An emoji with a joiner before it. -/
  | joined
  | joinedKeycap
  | joinedRegion
  | joinedEvenRegions
  | joinedOddRegions
  /-- The end of a flag given by tags, with the count of letters read of it. -/
  | tagLetters (n : Nat)
  /-- The end of a flag given by tags, with the count of digits read of it. -/
  | tagDigits (n : Nat)
  | arabicAlef
  | kiratRaiE
  | kiratRaiAi
  /-- The later part of a ligature; `joiner` tells whether a joiner stands before it. -/
  | ligature (l : Ligature) (joiner : Bool)
  deriving DecidableEq, Repr

/-- What follows a character. -/
structure Follower where
  sign : Sign := .plain
  selector : Option Selector := none

namespace Sign

/-- Whether a selector leaves a sign as it is. -/
def staysBefore : Sign → Selector → Bool
  | arabicAlef, _ | ligature .., _ => true
  | joined, .emoji | joinedKeycap, .emoji => true
  | _, _ => false

/-- Whether a sign is still that when a selector before it has had no effect. -/
def outlasts : Sign → Bool
  | arabicAlef | ligature .. => true
  | _ => false

/-- Whether a joiner stands before a sign of emoji. -/
def isJoined : Sign → Bool
  | joined | joinedKeycap => true
  | _ => false

end Sign

/-- A selector before what follows. -/
def Follower.select (f : Follower) (s : Selector) : Follower :=
  ⟨if f.sign.staysBefore s then f.sign else .plain, some s⟩

/-- What follows, when its selector has had no effect. -/
def Follower.unselect (f : Follower) : Follower :=
  match f.selector with
  | some .emoji => ⟨if f.sign.outlasts then f.sign else .plain, none⟩
  | _ => ⟨f.sign, none⟩

/-! ## Characters alone -/

/-- Whether a number lies between two others. -/
def isBetween (low high n : Nat) : Bool :=
  low ≤ n && n ≤ high

/-- The letters that stand for the region of a flag. -/
def isRegion (n : Nat) : Bool :=
  isBetween 0x1F1E6 0x1F1FF n

/-- The colours of skin. -/
def isSkinColour (n : Nat) : Bool :=
  isBetween 0x1F3FB 0x1F3FF n

/-- The consonants of Tifinagh. -/
def isTifinagh (n : Nat) : Bool :=
  isBetween 0x2D31 0x2D65 n || n == 0x2D6F

/-- The columns of a character that joins no other. -/
def aloneWidth (n : Nat) : Nat :=
  if n ≤ 0xA0 then 1
  else if n = 0x17D8 then 3
  else if inRanges emptyRanges n then 0
  else if inRanges wideRanges n then 2
  else 1

/-- What a character is to the one before it. -/
def signOf (n : Nat) : Sign :=
  if isRegion n then .region
  else if isSkinColour n then .skinColour
  else if inRanges emojiRanges n then .emoji
  else if inRanges alefRanges n then .arabicAlef
  else if inRanges belowRanges n then .ligature .khmerBelow true
  else if isTifinagh n then .ligature .tifinaghConsonant false
  else
    match n with
    | 0x5DC => .ligature .hebrewLamed false
    | 0x1A10 => .ligature .bugineseYa false
    | 0xA4FC | 0xA4FD => .ligature .lisuTone true
    | 0x10C03 => .ligature .turkicI false
    | 0x16D67 => .kiratRaiE
    | 0x16D68 => .kiratRaiAi
    | _ => .plain

/-- Whether a character can be shown as an emoji before the selector for it. -/
def isStyled (n : Nat) : Bool :=
  inRanges styledRanges n

/-- Whether an emoji is narrow when it is shown as text. -/
def isNarrowAsText (n : Nat) : Bool :=
  isStyled n && inRanges emojiRanges n && n != 0x1F21A && n != 0x1F22F

/-- The quotation marks that can be as wide as an ideograph. -/
def isQuotation (n : Nat) : Bool :=
  n == 0x2018 || n == 0x2019 || n == 0x201C || n == 0x201D

/-! ## Characters before others -/

/-- The columns that a character adds before a sign of emoji, and what it makes of the sign, where
the two are joined. -/
def beforeEmoji? (n : Nat) : Sign → Option (Int × Sign)
  | .skinColour =>
    if inRanges colouredRanges n then some (0, .emoji)
    else if n = 0x200D then some (0, .joined)
    else none
  | .region => if isRegion n then some (1, .regions) else none
  | .regions =>
    if isRegion n then some (1, .regions) else if n = 0x200D then some (0, .joined) else none
  | .emoji => if n = 0x200D then some (0, .joined) else none
  | .joined =>
    if n = 0x20E3 then some (0, .joinedKeycap)
    else if isRegion n then some (1, .joinedRegion)
    else if isSkinColour n then some (0, .skinColour)
    else if n = 0xE007F then some (0, .tagLetters 0)
    else if inRanges emojiRanges n then some (0, .emoji)
    else none
  | .joinedRegion => if isRegion n then some (-1, .joinedEvenRegions) else none
  | .joinedOddRegions =>
    if isRegion n then some (-1, .joinedEvenRegions)
    else if n = 0x200D then some (0, .joined)
    else none
  | .joinedEvenRegions =>
    if isRegion n then some (3, .joinedOddRegions)
    else if n = 0x200D then some (0, .joined)
    else none
  | .tagLetters k =>
    if isBetween 0xE0061 0xE007A n ∧ k < 6 then some (0, .tagLetters (k + 1))
    else if isBetween 0xE0030 0xE0039 n ∧ k ≤ 4 then some (0, .tagDigits 1)
    else if n = 0x1F3F4 ∧ 3 ≤ k then some (0, .emoji)
    else none
  | .tagDigits k =>
    if isBetween 0xE0030 0xE0039 n ∧ k < 3 then some (0, .tagDigits (k + 1))
    else if n = 0x1F3F4 ∧ k = 3 then some (0, .emoji)
    else none
  | _ => none

/-- The columns that a letter adds before a letter that it forms one sign with. -/
def beforeLetter? (n : Nat) : Sign → Option (Int × Sign)
  | .arabicAlef =>
    if inRanges lamRanges n then some (0, .plain)
    else if inRanges emptyRanges n && !inRanges dividingRanges n then some (0, .arabicAlef)
    else none
  | .ligature .hebrewLamed true => if n = 0x5D0 then some (0, .plain) else none
  | .ligature .khmerBelow _ => if n = 0x17D2 then some (-1, .plain) else none
  | .ligature .bugineseYa true =>
    if n = 0x1A17 then some (0, .ligature .bugineseIYa true) else none
  | .ligature .bugineseIYa _ => if n = 0x1A15 then some (0, .plain) else none
  | .ligature .tifinaghConsonant joiner =>
    if n = 0x2D7F then some (1, .ligature .tifinaghJoined true)
    else if joiner && isTifinagh n then some (0, .plain)
    else none
  | .ligature .tifinaghJoined _ => if isTifinagh n then some (-1, .plain) else none
  | .ligature .lisuTone _ => if isBetween 0xA4F8 0xA4FB n then some (0, .plain) else none
  | .ligature .turkicI true => if n = 0x10C32 then some (0, .plain) else none
  | .kiratRaiE =>
    match n with
    | 0x16D63 | 0x16D69 => some (0, .plain)
    | 0x16D67 => some (0, .kiratRaiAi)
    | 0x16D68 => some (1, .kiratRaiE)
    | _ => none
  | .kiratRaiAi => if n = 0x16D63 then some (0, .plain) else none
  | _ => none

/-- The part of a ligature before a character that is ignored within it. -/
def ignoredBefore? (n : Nat) : Sign → Option Sign
  | .ligature l joiner =>
    if n = 0x200D then some (.ligature l true)
    else if inRanges ignoredRanges n then some (.ligature l joiner)
    else none
  | _ => none

/-- The selector that a character is. -/
def selectorOf? (n : Nat) : Option Selector :=
  match n with
  | 0xFE01 => some .wide
  | 0xFE0E => some .text
  | 0xFE0F => some .emoji
  | _ => none

/-- The columns that a character adds before `f`, and what follows the character before it then. -/
def step (n : Nat) (f : Follower) : Int × Follower :=
  if f.selector = some .emoji ∧ isStyled n then
    (if f.sign.isJoined then 0 else 2, { sign := .emoji })
  else
    let f := if f.selector = some .emoji then f.unselect else f
    if n ≤ 0xA0 then
      if n = 0xA then (1, { sign := .lineFeed })
      else if n = 0xD ∧ f.sign = .lineFeed then (0, {})
      else (1, {})
    else
      match selectorOf? n with
      | some s => (0, f.select s)
      | none =>
        if f.selector = some .text ∧ isNarrowAsText n then (1, {})
        else if f.selector = some .wide ∧ isQuotation n then (2, {})
        else
          let sign := f.unselect.sign
          match ignoredBefore? n sign with
          | some sign => (0, { sign })
          | none =>
            match (beforeLetter? n sign).or (beforeEmoji? n sign) with
            | some (columns, sign) => (columns, { sign })
            | none => (aloneWidth n, { sign := signOf n })

end Width

/-- The columns of a text. -/
def width (s : String) : Nat :=
  let (columns, _) := s.toList.foldr
    (fun c (sum, next) =>
      let (columns, next) := Width.step c.toNat next
      (sum + columns, next))
    ((0 : Int), ({} : Width.Follower))
  columns.toNat

end Phrasebook.Text
