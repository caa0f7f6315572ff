import Phrasebook.Dict
import Phrasebook.Plural.Forms
import Phrasebook.Suggestion
import Phrasebook.Text.Dotted

/-!
# Entries

**The tree.** An entry is a text, a text in plural forms, or a group of named entries. The entries
of a locale form one group, its namespace.

**Keys.** A dotted key leads from a namespace through groups to an entry (`Namespace.find`). The
leaf keys are the keys of all texts and plural forms (`Namespace.leafKeys`).
-/

namespace Phrasebook

/-- What stands under a name. -/
inductive Entry where
  | text (s : String)
  | plural (forms : PluralForms)
  | group (members : List (String × Entry))
  deriving Inhabited

/-- The named entries of a locale or of a group, in the order of their names. -/
abbrev Namespace := Dict String Entry

/-- The three kinds of entries. -/
inductive EntryKind where
  | text
  | plural
  | group
  deriving DecidableEq, Repr

/-- What a kind of entry is called. -/
def EntryKind.name : EntryKind → String
  | text => "text"
  | plural => "plural"
  | group => "namespace"

/-- The kind of an entry. -/
def Entry.kind : Entry → EntryKind
  | .text _ => .text
  | .plural _ => .plural
  | .group _ => .group

/-! ## Leaf keys -/

mutual

/-- The keys of the texts and plural forms in an entry that has the key `path`, in tree order. -/
def Entry.leaves (path : String) : Entry → List String
  | .text _ => [path]
  | .plural _ => [path]
  | .group members => Namespace.leaves path members

/-- The keys of the texts and plural forms below the key `path`, in tree order. -/
def Namespace.leaves (path : String) : List (String × Entry) → List String
  | [] => []
  | (name, entry) :: rest => entry.leaves (Text.below path name) ++ Namespace.leaves path rest

end

/-- The order of texts, as a test. -/
def textLE (a b : String) : Bool :=
  decide (a ≤ b)

/-- The strict order of texts, as a test. -/
def textLT (a b : String) : Bool :=
  decide (a < b)

/-- The keys of all texts and plural forms, in increasing order. -/
def Namespace.leafKeys (ns : Namespace) : List String :=
  (Namespace.leaves "" ns).mergeSort textLE

/-- The leaf keys of one namespace that another one lacks. Those of the other are in order, so each
key is looked for by halving. -/
def Namespace.lacking (source target : Namespace) : List String :=
  let present := target.leafKeys.toArray
  source.leafKeys.filter fun key => !present.binSearchContains key textLT

/-! ## Finding an entry -/

/-- Follow names from a level of the tree; `parents` leads to that level. Where a name is missing,
the failure carries suggestions for the whole key. An empty text counts as missing. -/
def Namespace.descend (parents : List String) : List String → Namespace → Except (List String) Entry
  | [], _ => .error []
  | name :: more, level =>
    match level.get? name, more with
    | none, _ =>
      .error ((suggestions name level.keys).map fun near => Text.dotted (parents ++ [near]))
    | some (.text s), [] => if s.isEmpty then .error [] else .ok (.text s)
    | some entry, [] => .ok entry
    | some (.group members), _ :: _ => Namespace.descend (parents ++ [name]) more members
    | some _, _ :: _ => .error []

/-- The entry under a dotted key, or suggestions of keys that it may have been meant for. -/
def Namespace.find (ns : Namespace) (key : String) : Except (List String) Entry :=
  if key.isEmpty then .error [] else Namespace.descend [] (Text.names key) ns

end Phrasebook
