import Phrasebook.Directory
import Phrasebook.Entry.OfJson
import Phrasebook.Json.Read
import Phrasebook.Locale

/-!
# Errors

What can go wrong when data are loaded (`LoadError`) and when something is looked up or put into
words (`LookupError`), each with the wording of its message.
-/

namespace Phrasebook

/-- What is wrong with the data of a vocabulary. -/
inductive VocabularyProblem where
  /-- A list of words of the wrong length. -/
  | wordCount (field : String) (needed found : Nat)
  deriving DecidableEq, Repr

/-- What is wrong with a rule for phrases. -/
inductive RuleProblem where
  /-- The pattern is no regular expression. What is wrong with it is not kept, so there is one wording
  for all such patterns. -/
  | pattern
  /-- The replacement names a group that the pattern does not have. -/
  | missingGroup (named groups : Nat)
  deriving DecidableEq, Repr

/-- Why data were not loaded. -/
inductive LoadError where
  | invalidData (locale : Option Locale) (fault : DataFault)
  | invalidVocabulary (key : String) (problem : VocabularyProblem)
  | invalidRule (key : String) (index : Nat) (problem : RuleProblem)
  | json (path : String) (error : Json.ReadError)
  | unreadable (path : String) (cause : FileError)
  | neverLoaded (locale : Locale)
  deriving DecidableEq, Repr

/-- Why a question has no answer. -/
inductive LookupError where
  | invalidLocale (locale : Locale)
  | missingText (key : String) (locale : Locale) (suggestions : List String)
  | missingVariable (key : Option String) (placeholders : List String)
  | unknownVocabulary (key : String) (available : List String)
  /-- Matching the pattern of a rule took too many steps. No other failure of a match is modelled, so
  there is one wording. -/
  | ruleGaveUp (key : String) (index : Nat)
  deriving DecidableEq, Repr

/-- The wording of a vocabulary problem. -/
def VocabularyProblem.message : VocabularyProblem → String
  | wordCount field needed found =>
    "'" ++ field ++ "' needs " ++ toString needed ++ " words, found " ++ toString found

/-- The wording of a rule problem. -/
def RuleProblem.message : RuleProblem → String
  | pattern => "invalid pattern"
  | missingGroup named groups =>
    "replacement references group $" ++ toString named ++ " but the pattern has " ++
      toString groups ++ " group(s)"

/-- The wording of a load error. -/
def LoadError.message : LoadError → String
  | invalidData locale fault =>
    "invalid translation data" ++
      (match locale with
        | some l => " for locale '" ++ l.tag ++ "'"
        | none => "") ++
      (if fault.path.isEmpty then "" else " at '" ++ fault.path ++ "'") ++
      ": " ++ fault.problem.message
  | invalidVocabulary key problem =>
    "invalid speech mapping '" ++ key ++ "': " ++ problem.message
  | invalidRule key index problem =>
    "invalid rule #" ++ toString index ++ " in speech mapping '" ++ key ++ "': " ++
      problem.message
  | json path error => "failed to parse '" ++ path ++ "': " ++ error.message
  | unreadable path cause => "failed to read '" ++ path ++ "': " ++ cause.message
  | neverLoaded locale => "cannot reload '" ++ locale.tag ++ "': was not loaded from a file"

/-- The wording of a lookup error. -/
def LookupError.message : LookupError → String
  | invalidLocale locale => "invalid locale '" ++ locale.tag ++ "': no translations loaded"
  | missingText key locale near =>
    "missing translation key '" ++ key ++ "' for locale '" ++ locale.tag ++ "'" ++
      (if near.isEmpty then "" else ", did you mean: " ++ ", ".intercalate near ++ "?")
  | missingVariable key placeholders =>
    "missing variable " ++ ", ".intercalate placeholders ++
      (match key with
        | some k => " for translation key '" ++ k ++ "'"
        | none => "")
  | unknownVocabulary key available =>
    "speech mapping '" ++ key ++ "' not found, available: " ++ ", ".intercalate available
  | ruleGaveUp key index =>
    "rule #" ++ toString index ++ " of speech mapping '" ++ key ++
      "' failed: Error executing regex: Max limit for backtracking count exceeded"

end Phrasebook
