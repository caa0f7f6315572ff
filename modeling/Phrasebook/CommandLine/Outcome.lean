import Phrasebook.Error
import Phrasebook.Json.Write

/-!
# Outcomes

What a run of the command line leaves behind: an exit code and the text of both outputs.
-/

namespace Phrasebook.CommandLine

/-- An exit code with the text of standard output and of standard error. -/
structure Outcome where
  code : Nat
  stdout : String := ""
  stderr : String := ""
  deriving DecidableEq, Repr, Inhabited

namespace Outcome

/-- The exit code of a run that could not be understood. -/
def usageCode : Nat := 2

/-- The exit code of a run whose data are at fault. -/
def dataCode : Nat := 65

/-- The exit code of a run that was broken off. -/
def failureCode : Nat := 70

/-- Lines, each with its end. -/
def unlines (lines : List String) : String :=
  String.join (lines.map (· ++ "\n"))

/-- A run that found what it was asked for. -/
def success (lines : List String) : Outcome :=
  ⟨0, unlines lines, ""⟩

/-- A run whose findings are printed, and whose exit code says whether they are good. -/
def findings (good : Bool) (lines : List String) : Outcome :=
  ⟨if good then 0 else dataCode, unlines lines, ""⟩

/-- A run that has no answer. -/
def noAnswer (message : String) : Outcome :=
  ⟨dataCode, "", unlines [message]⟩

/-- A run that was broken off. -/
def failure (message : String) : Outcome :=
  ⟨failureCode, "", unlines ["Error: " ++ message]⟩

/-- A run that was broken off because data did not load. -/
def ofLoadError (e : LoadError) : Outcome :=
  failure e.message

end Outcome

end Phrasebook.CommandLine
