import Phrasebook.CommandLine.Check
import Phrasebook.CommandLine.Coverage
import Phrasebook.CommandLine.Help
import Phrasebook.CommandLine.Speak
import Phrasebook.CommandLine.Translate

/-!
# Runs

`Invocation.ofArguments` says what a row of arguments asks for, and `run` does it. A run depends on
nothing but its arguments and the files that it reads, and `Command.paths` lists those.
-/

namespace Phrasebook.CommandLine

/-- A command with its options. -/
inductive Command where
  | translate (o : Translate)
  | speak (o : Speak)
  | check (o : Check)
  | coverage (o : Coverage)

namespace Command

/-- Read the arguments of a command. -/
def read (arguments : List String) : CommandName → Except Halt Command
  | .translate => (Translate.grammar.parse {} arguments).map translate
  | .speak => (Speak.grammar.parse {} arguments).map speak
  | .check => (Check.grammar.parse {} arguments).map check
  | .coverage => (Coverage.grammar.parse {} arguments).map coverage

/-- Run a command. -/
def run (files : Files) : Command → Outcome
  | translate o => o.run files
  | speak o => o.run files
  | check o => o.run files
  | coverage o => o.run files

/-- The paths of the files that a command may read. -/
def paths : Command → List String
  | translate o => o.files.map (·.2)
  | speak o => o.mappingFiles.map (·.2)
  | check o => o.source.toList ++ o.paths
  | coverage o => o.source :: o.languages.map (Coverage.languagePath o.folder)

end Command

/-- What a row of arguments asks for. -/
inductive Invocation where
  | command (c : Command)
  | help (topic : Topic)
  | version
  | misuse (m : Misuse)

namespace Invocation

/-- The arguments before a command. -/
def grammar : Grammar Unit where
  flags := { long := "version", short := some 'V', effect := .halt .version } :: Flag.global

/-- What is asked for when reading ends early. -/
def ofHalt (topic : Topic) : Halt → Invocation
  | .help => help topic
  | .version => version
  | .misuse m => misuse m

/-- The help on the topic that words lead to. -/
def ofHelpWords (topic : Topic) : List String → Invocation
  | [] => help topic
  | word :: rest =>
    match topic.below? word with
    | some topic => ofHelpWords topic rest
    | none => misuse (.unknownCommand word)

/-- What a row of arguments asks for. -/
def ofArguments (arguments : List String) : Invocation :=
  match grammar.read { options := () } arguments with
  | .error h => ofHalt .program h
  | .ok (_, []) => misuse .noCommand
  | .ok (_, word :: rest) =>
    if word = Topic.helpWord then ofHelpWords .program rest
    else
      match CommandName.ofText? word with
      | none => misuse (.unknownCommand word)
      | some name =>
        match Command.read rest name with
        | .ok c => command c
        | .error h => ofHalt (.command name) h

/-- The paths of the files that a run may read. -/
def paths : Invocation → List String
  | command c => c.paths
  | help _ | version | misuse _ => []

/-- What a run leaves behind. -/
def run (files : Files) : Invocation → Outcome
  | command c => c.run files
  | help topic => .success topic.lines
  | version => .success ["glossa 0.1.0"]
  | misuse m => ⟨Outcome.usageCode, "", Outcome.unlines ["error: " ++ m.message]⟩

end Invocation

/-- Run the command line on arguments and files. -/
def run (files : Files) (arguments : List String) : Outcome :=
  (Invocation.ofArguments arguments).run files

end Phrasebook.CommandLine
