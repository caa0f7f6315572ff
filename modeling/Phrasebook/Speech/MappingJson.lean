import Phrasebook.Json.Read
import Phrasebook.Speech.Mapping

/-!
# Mappings as JSON

**Shape.** A mapping is an object with the fields of `MappingData`, or an array of their values in
the order of `fieldNames`; only the rules may be left out. A rule is an object with a `type`, or an
array that begins with it. Unknown fields are ignored.

**Two readings.** `MappingData.ofJson` takes a JSON value. `MappingData.ofText` reads a text, and of
a malformed text that also has the wrong shape it reports what comes first; a field given twice is
of the wrong shape.
-/

namespace Phrasebook.Speech

/-! ## Rules -/

/-- The fields of a rule, by name or in order; its type is not among them. -/
inductive RuleFields where
  | named (fields : List (String × Json))
  | listed (items : List Json)

/-- A field that is given once. -/
def uniqueField (fields : List (String × Json)) (name : String) : Option (Option Json) :=
  match fields.filter (·.1 = name) with
  | [] => some none
  | [(_, j)] => some (some j)
  | _ => none

/-- A text that is given once. -/
def textField (fields : List (String × Json)) (name : String) : Option String := do
  (← (← uniqueField fields name)).string?

/-- A position: its name, or an object with the name and an empty value and no other member. -/
def Position.ofJson? : Json → Option Position
  | .string name => ofName? name
  | .object [(name, .null)] => ofName? name
  | .object [(name, .object [])] => ofName? name
  | _ => none
where
  /-- The position of a name. -/
  ofName? : String → Option Position
    | "before" => some .before
    | "after" => some .after
    | _ => none

/-- The position of an insertion, which is after the match unless it is given. -/
def Position.ofField? : Option Json → Option Position
  | none => some .after
  | some j => ofJson? j

/-- The two types of rules. -/
inductive RuleType where
  | replace
  | insert

/-- The type of a name. -/
def RuleType.ofName? : String → Option RuleType
  | "replace" => some replace
  | "insert" => some insert
  | _ => none

/-- A rule from its type and its fields. -/
def RuleData.ofFields? (type : RuleType) (fields : RuleFields) : Option RuleData :=
  match type, fields with
  | .replace, .named fields => do
    return .replace (← textField fields "pattern") (← textField fields "replacement")
  | .insert, .named fields => do
    let pattern ← textField fields "pattern"
    let insertion ← textField fields "insertion"
    let position ← Position.ofField? (← uniqueField fields "position")
    return .insert pattern insertion position
  | .replace, .listed [.string pattern, .string replacement] => some (.replace pattern replacement)
  | .insert, .listed [.string pattern, .string insertion] =>
    some (.insert pattern insertion .after)
  | .insert, .listed [.string pattern, .string insertion, position] => do
    return .insert pattern insertion (← Position.ofJson? position)
  | _, .listed _ => none

/-- The name of the field that tells the type of a rule. -/
def typeField : String := "type"

/-- Read a rule from a JSON value. -/
def RuleData.ofJson? : Json → Option RuleData
  | .object members => do
    let name ← (← members.lookup typeField).string?
    let type ← RuleType.ofName? name
    RuleData.ofFields? type (.named (members.filter (·.1 ≠ typeField)))
  | .array (.string name :: items) => do
    RuleData.ofFields? (← RuleType.ofName? name) (.listed items)
  | _ => none

/-- Write a rule. -/
def RuleData.toJson : RuleData → Json
  | .replace pattern replacement =>
    .object [("pattern", .string pattern), ("replacement", .string replacement),
      (typeField, .string "replace")]
  | .insert pattern insertion position =>
    .object [("insertion", .string insertion), ("pattern", .string pattern),
      ("position", .string (match position with | .before => "before" | .after => "after")),
      (typeField, .string "insert")]

/-! ## Fields of a mapping -/

/-- The value of a field. -/
inductive FieldValue where
  | text (s : String)
  | words (ws : List String)
  | rules (rs : List RuleData)

/-- What a field holds. -/
inductive FieldKind where
  | text
  | words
  | rules

/-- The fields of a mapping in order, with what they hold. -/
def fieldNames : List (String × FieldKind) :=
  [("negative", .text), ("zero", .text), ("units", .words), ("teens", .words), ("tens", .words),
   ("hundred", .text), ("thousand", .text), ("million", .text), ("rules", .rules)]

/-- The field of rules, which may be left out. -/
def rulesField : String := "rules"

/-- A mapping from its fields. -/
def MappingData.ofFields? (fields : List (String × FieldValue)) : Option MappingData := do
  let text (name : String) : Option String :=
    match fields.lookup name with
    | some (.text s) => some s
    | _ => none
  let words (name : String) : Option (List String) :=
    match fields.lookup name with
    | some (.words ws) => some ws
    | _ => none
  return {
    negative := ← text "negative"
    zero := ← text "zero"
    units := ← words "units"
    teens := ← words "teens"
    tens := ← words "tens"
    hundred := ← text "hundred"
    thousand := ← text "thousand"
    million := ← text "million"
    rules :=
      match fields.lookup rulesField with
      | some (.rules rs) => rs
      | _ => [] }

/-- Read the value of a field from a JSON value. -/
def FieldValue.ofJson? (j : Json) : FieldKind → Option FieldValue
  | .text => j.string?.map .text
  | .words => do return .words (← (← j.array?).mapM Json.string?)
  | .rules => do return .rules (← (← j.array?).mapM RuleData.ofJson?)

/-- Read a mapping from a JSON value. -/
def MappingData.ofJson? : Json → Option MappingData
  | .object members => do
    let fields ← fieldNames.filterMapM fun (name, kind) =>
      match members.lookup name with
      | some j => do return some (name, ← FieldValue.ofJson? j kind)
      | none => some none
    MappingData.ofFields? fields
  | .array items => do
    if fieldNames.length < items.length then none
    else
      let fields ← (fieldNames.zip items).mapM fun ((name, kind), j) => do
        return (name, ← FieldValue.ofJson? j kind)
      MappingData.ofFields? fields
  | _ => none

/-- Write a mapping. -/
def MappingData.toJson (d : MappingData) : Json :=
  .object
    [("hundred", .string d.hundred), ("million", .string d.million),
     ("negative", .string d.negative), (rulesField, .array (d.rules.map RuleData.toJson)),
     ("teens", .strings d.teens), ("tens", .strings d.tens), ("thousand", .string d.thousand),
     ("units", .strings d.units), ("zero", .string d.zero)]

/-! ## Reading from text -/

namespace MappingData

open Json Json.Read

/-- A value of the wrong shape. A scalar is read first, so a malformed one is reported as such. -/
def mismatch {α : Type} (fuel : Nat) : Reader α := fun cs =>
  match skipBlanks cs with
  | '[' :: rest | '\x7b' :: rest => faultBefore .wrongShape rest
  | cs => do
    let (_, rest) ← value .keep fuel 128 cs
    faultBefore .wrongShape rest

/-- Read a string. -/
def readText (fuel : Nat) : Reader String := fun cs =>
  match skipBlanks cs with
  | '"' :: rest => quoted .keep rest
  | cs => mismatch fuel cs

/-- Read the items of an array with a reader, up to its end. -/
def readItems {α : Type} (item : Reader α) (first : Bool) : Nat → Reader (List α)
  | 0, cs => faultAt .tooDeep cs
  | fuel + 1, cs => do
    let (next, rest) ← nextItem first cs
    match next with
    | .done => return ([], rest)
    | .entry =>
      let (a, rest) ← item rest
      let (more, rest) ← readItems item false fuel rest
      return (a :: more, rest)

/-- Read an array with a reader for its items. -/
def readArray {α : Type} (item : Reader α) (fuel : Nat) : Reader (List α) := fun cs =>
  match skipBlanks cs with
  | '[' :: rest => readItems item true fuel rest
  | cs => mismatch fuel cs

/-- Read the type of a rule. -/
def readType (fuel : Nat) : Reader RuleType := fun cs => do
  let (name, rest) ← readText fuel cs
  match RuleType.ofName? name with
  | some type => return (type, rest)
  | none => faultBefore .wrongShape rest

/-- How deep a value in a rule may still be nested: the mapping, its rules and the rule are open. -/
def ruleDepth : Nat := 125

/-- Read the members of a rule up to its end: its type, which must be given once, and the rest. -/
def readRuleMembers (type : Option RuleType) (first : Bool) :
    Nat → Reader (Option RuleType × List (String × Json))
  | 0, cs => faultAt .tooDeep cs
  | fuel + 1, cs => do
    let (next, rest) ← nextMember first cs
    match next with
    | .done => return ((type, []), rest)
    | .entry =>
      let (name, rest) ← quoted .keep rest
      if name = typeField then
        if type.isSome then faultBefore .wrongShape rest
        else
          let ((), rest) ← colon rest
          let (type, rest) ← readType fuel rest
          readRuleMembers (some type) false fuel rest
      else
        let ((), rest) ← colon rest
        let (v, rest) ← value .keepAll fuel ruleDepth rest
        let ((type, more), rest) ← readRuleMembers type false fuel rest
        return ((type, (name, v) :: more), rest)

/-- Read the type and the fields of a rule. -/
def readRuleFields (fuel : Nat) : Reader (Option RuleType × RuleFields) := fun cs =>
  match skipBlanks cs with
  | '\x7b' :: rest => do
    let ((type, fields), rest) ← readRuleMembers none true fuel rest
    return ((type, .named fields), rest)
  | '[' :: rest => do
    let (next, rest) ← nextItem true rest
    match next with
    | .done => faultBefore .wrongShape rest
    | .entry =>
      let (type, rest) ← readType fuel rest
      let (items, rest) ← readItems (value .keepAll fuel ruleDepth) false fuel rest
      return ((some type, .listed items), rest)
  | cs => mismatch fuel cs

/-- Read a rule. -/
def readRule (fuel : Nat) : Reader RuleData := fun cs => do
  let ((type, fields), rest) ← readRuleFields fuel cs
  match type.bind fun type => RuleData.ofFields? type fields with
  | some rule => return (rule, rest)
  | none => faultBefore .wrongShape rest

/-- Read the value of a field. -/
def readField (fuel : Nat) (kind : FieldKind) : Reader FieldValue := fun cs => do
  match kind with
  | .text =>
    let (s, rest) ← readText fuel cs
    return (.text s, rest)
  | .words =>
    let (ws, rest) ← readArray (readText fuel) fuel cs
    return (.words ws, rest)
  | .rules =>
    let (rs, rest) ← readArray (readRule fuel) fuel cs
    return (.rules rs, rest)

/-- Read the fields of a mapping up to its end; `seen` are those read before. -/
def readFields (seen : List (String × FieldValue)) (first : Bool) :
    Nat → Reader (List (String × FieldValue))
  | 0, cs => faultAt .tooDeep cs
  | fuel + 1, cs => do
    let (next, rest) ← nextMember first cs
    match next with
    | .done => return (seen, rest)
    | .entry =>
      let (name, rest) ← quoted .keep rest
      match fieldNames.lookup name with
      | some kind =>
        if (seen.lookup name).isSome then faultBefore .wrongShape rest
        else
          let ((), rest) ← colon rest
          let (v, rest) ← readField fuel kind rest
          readFields ((name, v) :: seen) false fuel rest
      | none =>
        let ((), rest) ← colon rest
        let (_, rest) ← value .skip fuel 128 rest
        readFields seen false fuel rest

/-- Read the fields of a mapping that stand in order in an array, and the end of the array. Where
the fields end too early the shape is wrong, unless only the rules are left out. -/
def readListed (fuel : Nat) (first : Bool) :
    List (String × FieldKind) → Reader (List (String × FieldValue))
  | [], cs =>
    match skipBlanks cs with
    | ']' :: rest => .ok ([], rest)
    | [] => faultAt .eofList []
    | rest => faultAt .trailingCharacters rest
  | (name, kind) :: more, cs => do
    let (next, rest) ← nextItem first cs
    match next with
    | .done => if name = rulesField then return ([], rest) else faultBefore .wrongShape rest
    | .entry =>
      let (v, rest) ← readField fuel kind rest
      let (fields, rest) ← readListed fuel false more rest
      return ((name, v) :: fields, rest)

/-- Read the fields of a mapping. -/
def readAllFields (fuel : Nat) : Reader (List (String × FieldValue)) := fun cs =>
  match skipBlanks cs with
  | [] => faultAt .eofValue []
  | '\x7b' :: rest => readFields [] true fuel rest
  | '[' :: rest => readListed fuel true fieldNames rest
  | cs => mismatch fuel cs

/-- Read a mapping. -/
def reader (fuel : Nat) : Reader MappingData := fun cs => do
  let (fields, rest) ← readAllFields fuel cs
  match MappingData.ofFields? fields with
  | some d => return (d, rest)
  | none => faultBefore .wrongShape rest

/-- Read a mapping from a text. -/
def ofText (text : String) : Except ReadError MappingData :=
  readAll (reader (stepsFor text.toList)) text

end MappingData

end Phrasebook.Speech
