import Phrasebook.Entry.Basic
import Phrasebook.Json.Basic

/-!
# Entries as JSON

**Reading.** A string is a text. An object whose names are all plural categories, whose values are
all strings and which has `other` is a text in plural forms; every other object is a group. Nothing
else is allowed. The root is always a group.

**Faults.** Members are visited in the order of their names, and the first value that is not allowed
is reported by its dotted key.

**Writing.** `Entry.toJson` gives back the JSON that an entry was read from, up to the order in
which plural forms are listed.
-/

namespace Phrasebook

/-- Why a JSON value is no tree of entries; each case names the kind of value that was found. -/
inductive DataProblem where
  | notMapping (found : String)
  | notLocales (found : String)
  | notEntry (found : String)
  deriving DecidableEq, Repr

/-- The wording of a problem. -/
def DataProblem.message : DataProblem → String
  | notMapping found => "expected a mapping, found " ++ found
  | notLocales found => "expected a mapping of locales, found " ++ found
  | notEntry found => "expected text, plural forms, or a nested mapping, found " ++ found

/-- A problem and the dotted key of the value that has it. -/
structure DataFault where
  path : String
  problem : DataProblem
  deriving DecidableEq, Repr

/-- The plural forms that the members of an object are, if they are some. -/
def PluralForms.ofMembers? (members : List (String × Json)) : Option PluralForms := do
  let forms ← members.mapM fun (name, value) => do
    let category ← Category.ofTag? name
    let text ← value.string?
    return (category, text)
  PluralForms.ofDict? (Dict.ofList forms)

mutual

/-- Read the entry that has the key `path`. -/
def Entry.ofJson (path : String) : Json → Except DataFault Entry
  | .string s => .ok (.text s)
  | .object members =>
    match PluralForms.ofMembers? members with
    | some forms => .ok (.plural forms)
    | none => do
      let entries ← Namespace.ofMembers path members
      return .group entries
  | j => .error ⟨path, .notEntry j.kind⟩

/-- Read the entries below the key `path`. -/
def Namespace.ofMembers (path : String) : List (String × Json) → Except DataFault Namespace
  | [] => .ok []
  | (name, value) :: rest => do
    let entry ← Entry.ofJson (Text.below path name) value
    let more ← Namespace.ofMembers path rest
    return (name, entry) :: more

end

/-- Read a namespace. -/
def Namespace.ofJson : Json → Except DataFault Namespace
  | .object members => Namespace.ofMembers "" members
  | j => .error ⟨"", .notMapping j.kind⟩

mutual

/-- Write an entry. -/
def Entry.toJson : Entry → Json
  | .text s => .string s
  | .plural forms => .object (forms.toList.map fun (category, s) => (category.tag, .string s))
  | .group members => .object (Namespace.toMembers members)

/-- Write the members of a group. -/
def Namespace.toMembers : List (String × Entry) → List (String × Json)
  | [] => []
  | (name, entry) :: rest => (name, entry.toJson) :: Namespace.toMembers rest

end

/-- Write a namespace. -/
def Namespace.toJson (ns : Namespace) : Json :=
  .object (Namespace.toMembers ns)

end Phrasebook
