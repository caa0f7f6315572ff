import Phrasebook.Speech.English
import Phrasebook.Speech.MappingJson

/-!
# Registries

A registry keeps compiled mappings by key. Data are checked and compiled before anything is stored,
so a failed change leaves the registry as it was.
-/

namespace Phrasebook.Speech

/-- Compiled mappings by key. -/
abbrev Registry := Dict String Mapping

namespace Registry

/-- Compile a mapping and store it under a key. -/
def load (r : Registry) (key : String) (d : MappingData) : Except LoadError Registry := do
  let m ← Mapping.compile key d
  return r.insert key m

/-- Read a mapping from a text, which an error names by `path`, and store it under a key. -/
def loadText (r : Registry) (key path text : String) : Except LoadError Registry :=
  match MappingData.ofText text with
  | .error error => .error (.json path error)
  | .ok d => r.load key d

/-- Read a mapping from JSON text and store it under a key. -/
def loadJson (r : Registry) (key text : String) : Except LoadError Registry :=
  r.loadText key key text

/-- Read a mapping from a file and store it under a key. -/
def loadFile (r : Registry) (files : Files) (key path : String) : Except LoadError Registry :=
  match files.read path with
  | .error cause => .error (.unreadable path cause)
  | .ok text => r.loadText key path text

/-- The registry of the English mappings, all of which compile. -/
def standard : Registry :=
  [(English.americanKey, English.american), (English.britishKey, English.british)].foldl
    (fun r (key, d) => (r.load key d).toOption.getD r) []

/-- A number in the words of a mapping. -/
def speak (r : Registry) (n : Int64) (key : String) : Except LookupError String :=
  match r.get? key with
  | some m => m.speak n
  | none => .error (.unknownVocabulary key r.keys)

end Registry

end Phrasebook.Speech
