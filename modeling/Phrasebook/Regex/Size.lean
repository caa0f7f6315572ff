import Phrasebook.Regex.Plain

/-!
# The size of a plain pattern

A plain pattern can be matched by a machine that takes a text byte by byte, and it is refused where
such a machine would be too large. The size of the machine is found without making it: every part needs
some states, a repetition has a copy of its body for each count, and a set of characters needs as many
states as there are different starts among the rows of byte ranges that spell it.
-/

namespace Phrasebook.Regex

open Unicode (CharSet)

namespace Plain

/-- The ranges of digits to the base 64 that spell the numbers of a range: a digit for every block
size, and one more. -/
def digitRows : (blocks : List Nat) → (low high : Nat) → List (List (Nat × Nat))
  | [], low, high => [[(low, high)]]
  | b :: blocks, low, high =>
    let p := low / b
    let q := high / b
    if p = q then (digitRows blocks (low % b) (high % b)).map ((p, p) :: ·)
    else
      let head := if low % b = 0 then [] else digitRows blocks (low % b) (b - 1)
      let tail := if high % b = b - 1 then [] else digitRows blocks 0 (high % b)
      let first := if head.isEmpty then p else p + 1
      let middle := if first + (if tail.isEmpty then 0 else 1) ≤ q then
          [(first, if tail.isEmpty then q else q - 1) :: (b :: blocks).map fun _ => (0, 63)]
        else []
      head.map ((p, p) :: ·) ++ middle ++ tail.map ((q, q) :: ·)

/-- The ranges of characters with one, two, three and four bytes, and the block sizes of each. -/
def byteLengths : List ((Nat × Nat) × List Nat) :=
  [((0, 0x7F), []), ((0x80, 0x7FF), [64]), ((0x800, 0xD7FF), [4096, 64]),
    ((0xE000, 0xFFFF), [4096, 64]), ((0x10000, 0x10FFFF), [262144, 4096, 64])]

/-- The rows of ranges of bytes that spell the characters of a set, in order. -/
def byteRows (s : CharSet) : List (List (Nat × Nat)) :=
  s.ranges.flatMap fun (low, high) =>
    byteLengths.flatMap fun ((a, b), blocks) =>
      if high < a ∨ b < low then [] else digitRows blocks (max low a) (min high b)

/-- The length of what two rows have in common at the start. -/
def commonLength : List (Nat × Nat) → List (Nat × Nat) → Nat
  | x :: xs, y :: ys => if x = y then commonLength xs ys + 1 else 0
  | _, _ => 0

/-- The number of different starts of rows in order, of which `last` comes before the first. Rows of
different lengths have no start in common. -/
def startCount (last : List (Nat × Nat)) : List (List (Nat × Nat)) → Nat
  | [] => 0
  | row :: rows =>
    let common := if row.length = last.length then commonLength last row else 0
    row.length - common + startCount row rows

/-- The size of a state of a machine. -/
def stateSize : Nat := 32

/-- The size of a machine that takes a character of a set: it takes the bytes of the character from
the last to the first. -/
def setSize (s : CharSet) : Nat :=
  match s.ranges with
  | [] => stateSize
  | [(a, b)] =>
    if a = b then stateSize * (Char.ofNat a).utf8Size
    else if b < 0x80 then 2 * stateSize + 8 else wide
  | ranges =>
    if ranges.all fun (_, b) => b < 0x80 then 2 * stateSize + 8 * ranges.length else wide
where
  /-- The size for a set with characters of several bytes. -/
  wide : Nat :=
    let rows := byteRows s
    stateSize * (startCount [] rows + 2) + 4 * rows.length

/-- The size of a machine that matches a pattern, by the sizes for sets and groups. -/
def size (sets : CharSet → Nat) (groups : Nat) : Plain → Nat
  | empty | anchor _ => stateSize
  | set s => sets s
  | seq a b => a.size sets groups + b.size sets groups
  | choice _ a b => a.size sets groups + b.size sets groups + stateSize + 8
  | group _ a => a.size sets groups + groups
  | repeated _ _ low high _ a =>
    let one := a.size sets groups
    match high with
    | some high => low * one + stateSize + (high - low) * (stateSize + 8 + one)
    | none => max low 1 * one + stateSize + 8

/-- The size at which a machine is refused. -/
def sizeLimit : Nat :=
  10485760

/-- Whether a machine for a pattern is too large. There are two of them: one takes the bytes of a text
from the last to the first, and one the other way, with a smaller need for sets of characters and a
need for groups. -/
def isTooLarge (p : Plain) : Bool :=
  sizeLimit < p.size setSize 0 ||
    sizeLimit < p.size (fun s => if s.ranges.all (·.2 < 0x80) then setSize s else setSize s / 2)
      (2 * stateSize)

end Plain

/-- The plain form of a pattern with its marks, unless it is too large. -/
def Pattern.plain? (p : Pattern) : Option Plain := do
  let plain ← Plain.ofPattern? p
  if plain.isTooLarge then none else return (plain.number 0).1

end Phrasebook.Regex
