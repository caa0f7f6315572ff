import Phrasebook.Entry.Basic

/-!
# Comparing two namespaces

Where a target departs from its source: an entry that the source does not have, or one of another
kind. Below such an entry nothing more is reported, so each report is a highest point of
divergence, and reports stand in tree order of the target.
-/

namespace Phrasebook

/-- A point where a target departs from its source, by its dotted key. -/
inductive Divergence where
  | unknownKey (key : String)
  | shapeMismatch (key : String) (expected found : EntryKind)
  deriving DecidableEq, Repr

/-- The wording of a divergence in a target locale. -/
def Divergence.message (locale : String) : Divergence → String
  | unknownKey key =>
    "key '" ++ key ++ "' in '" ++ locale ++ "' does not exist in the source locale"
  | shapeMismatch key expected found =>
    "key '" ++ key ++ "' in '" ++ locale ++ "' is " ++ found.name ++ ", source has " ++
      expected.name

/-- A divergence as it is reported, with the locale that departs from its source. -/
structure Warning where
  locale : String
  divergence : Divergence
  deriving DecidableEq, Repr

/-- The wording of a warning. -/
def Warning.message (w : Warning) : String :=
  w.divergence.message w.locale

mutual

/-- Compare the entry under the key `path` with its source. -/
def Entry.divergences (path : String) (source : Entry) : Entry → List Divergence
  | .text _ => if source.kind = .text then [] else [.shapeMismatch path source.kind .text]
  | .plural _ => if source.kind = .plural then [] else [.shapeMismatch path source.kind .plural]
  | .group members =>
    match source with
    | .group sources => Namespace.divergences path sources members
    | _ => [.shapeMismatch path source.kind .group]

/-- Compare the members below the key `path` with their sources. -/
def Namespace.divergences (path : String) (source : Namespace) :
    List (String × Entry) → List Divergence
  | [] => []
  | (name, entry) :: rest =>
    (match source.get? name with
      | none => [.unknownKey (Text.below path name)]
      | some counterpart => Entry.divergences (Text.below path name) counterpart entry) ++
    Namespace.divergences path source rest

end

end Phrasebook
