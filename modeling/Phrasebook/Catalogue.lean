import Phrasebook.Entry.Comparison
import Phrasebook.Error

/-!
# Catalogues

A catalogue keeps one namespace per locale. Data are read completely before anything is stored, so a
failed change leaves the catalogue as it was.
-/

namespace Phrasebook

/-- The namespaces of the locales. -/
abbrev Catalogue := Dict Locale Namespace

namespace Catalogue

/-- Read the namespace of a locale. -/
def readNamespace (locale : Option Locale) (data : Json) : Except LoadError Namespace :=
  match Namespace.ofJson data with
  | .ok ns => .ok ns
  | .error fault => .error (.invalidData locale fault)

/-- Store a namespace in place of the locale's own. -/
def set (c : Catalogue) (locale : Locale) (ns : Namespace) : Catalogue :=
  c.insert locale ns

/-- Add entries to the namespace of a locale; at the top level they take the place of older ones. -/
def merge (c : Catalogue) (locale : Locale) (ns : Namespace) : Catalogue :=
  c.insert locale (((c.get? locale).getD []).insertAll ns)

/-- Read a namespace and store it. -/
def setJson (c : Catalogue) (locale : Locale) (data : Json) : Except LoadError Catalogue := do
  let ns ← readNamespace (some locale) data
  return c.set locale ns

/-- Read entries and add them. -/
def mergeJson (c : Catalogue) (locale : Locale) (data : Json) : Except LoadError Catalogue := do
  let ns ← readNamespace (some locale) data
  return c.merge locale ns

/-- Read the namespaces of several locales, in the order of their tags. -/
def readMembers : List (String × Json) → Except LoadError (List (Locale × Namespace))
  | [] => .ok []
  | (tag, data) :: rest => do
    let locale := Locale.ofTag tag
    let ns ← readNamespace (some locale) data
    let more ← readMembers rest
    return (locale, ns) :: more

/-- Read a whole catalogue. Of tags that name the same locale the last one counts. -/
def ofJson : Json → Except LoadError Catalogue
  | .object members => do
    let entries ← readMembers members
    return Dict.ofList entries
  | j => .error (.invalidData none ⟨"", .notLocales j.kind⟩)

/-- The namespace that serves a locale: its own, or that of its base. -/
def serving? (c : Catalogue) (requested : Locale) : Option (Locale × Namespace) :=
  match c.get? requested with
  | some ns => some (requested, ns)
  | none => do
    let base ← requested.base?
    let ns ← c.get? base
    return (base, ns)

/-- The leaf keys of a source locale that a target locale lacks. A locale that is not there has no
keys. -/
def lacking (c : Catalogue) (source target : Locale) : List String :=
  ((c.get? source).getD []).lacking ((c.get? target).getD [])

/-- Where a target locale departs from its source; nothing unless both are there. -/
def divergences (c : Catalogue) (source target : Locale) : List Divergence :=
  match c.get? source, c.get? target with
  | some s, some t => Namespace.divergences "" s t
  | _, _ => []

end Catalogue

end Phrasebook
