import Phrasebook.Json.Basic
import Phrasebook.Number.Shortest

/-!
# Writing JSON

`compact` writes a value on one line without blanks. `pretty` writes every item and member on a
line of its own, indented by two blanks a level; an empty array or object stays on its line.
-/

namespace Phrasebook.Json

/-- The hexadecimal digit of a number below sixteen, in lower case. -/
def hexDigit (n : Nat) : Char :=
  (Nat.toDigits 16 n).headD '0'

/-- A character as it stands between quotes. -/
def escape (c : Char) : List Char :=
  match c with
  | '"' => ['\\', '"']
  | '\\' => ['\\', '\\']
  | '\n' => ['\\', 'n']
  | '\r' => ['\\', 'r']
  | '\t' => ['\\', 't']
  | '\x08' => ['\\', 'b']
  | '\x0c' => ['\\', 'f']
  | c =>
    if c.toNat < 0x20 then
      ['\\', 'u', '0', '0', hexDigit (c.toNat / 16), hexDigit (c.toNat % 16)]
    else [c]

/-- A text between quotes. -/
def quote (s : String) : String :=
  String.ofList ('"' :: s.toList.flatMap escape ++ ['"'])

/-- A number as text. -/
def Numeral.text : Numeral → String
  | .integer n => toString n
  | .double x => Number.plainText x

/-- How a value is laid out: what stands before an item at a depth, before the closing bracket, and
after the colon. -/
structure Layout where
  item : Nat → String
  close : Nat → String
  colon : String

/-- All on one line. -/
def Layout.compact : Layout := ⟨fun _ => "", fun _ => "", ":"⟩

/-- One line for each item. -/
def Layout.pretty : Layout :=
  let line (depth : Nat) := String.ofList ('\n' :: List.replicate (2 * depth) ' ')
  ⟨fun depth => line (depth + 1), line, ": "⟩

/-- Items between brackets. -/
def Layout.bracket (layout : Layout) (depth : Nat) (opening closing : String)
    (items : List String) : String :=
  if items.isEmpty then opening ++ closing
  else
    opening ++ ",".intercalate (items.map (layout.item depth ++ ·)) ++ layout.close depth ++ closing

mutual

/-- Write a value that stands at a depth. -/
def write (layout : Layout) (depth : Nat) : Json → String
  | null => "null"
  | boolean b => if b then "true" else "false"
  | number n => n.text
  | string s => quote s
  | array items => layout.bracket depth "[" "]" (writeItems layout (depth + 1) items)
  | object members =>
    layout.bracket depth "\x7b" "\x7d" (writeMembers layout (depth + 1) members)

/-- Write the items of an array. -/
def writeItems (layout : Layout) (depth : Nat) : List Json → List String
  | [] => []
  | item :: rest => write layout depth item :: writeItems layout depth rest

/-- Write the members of an object. -/
def writeMembers (layout : Layout) (depth : Nat) : List (String × Json) → List String
  | [] => []
  | (name, value) :: rest =>
    (quote name ++ layout.colon ++ write layout depth value) :: writeMembers layout depth rest

end

/-- A value on one line. -/
def compact (j : Json) : String :=
  write .compact 0 j

/-- A value with a line for each item. -/
def pretty (j : Json) : String :=
  write .pretty 0 j

end Phrasebook.Json
