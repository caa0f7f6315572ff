/-!
# Help

What each command is for and which arguments it takes, as it is printed on request.
-/

namespace Phrasebook.CommandLine

/-- The commands. -/
inductive CommandName where
  | translate
  | speak
  | check
  | coverage
  deriving DecidableEq, Repr

namespace CommandName

/-- All commands in the order of their listing. -/
def all : List CommandName :=
  [translate, speak, check, coverage]

/-- A command as it is typed. -/
def text : CommandName → String
  | translate => "translate"
  | speak => "speak"
  | check => "check"
  | coverage => "coverage"

/-- The command that is typed so. -/
def ofText? (s : String) : Option CommandName :=
  all.find? (·.text = s)

end CommandName

/-- What help can be asked about. -/
inductive Topic where
  | program
  | command (name : CommandName)
  | help
  deriving DecidableEq, Repr

namespace Topic

/-- The word that asks for help in the place of a command. -/
def helpWord : String := "help"

/-- Go from a topic to one below it. -/
def below? : Topic → String → Option Topic
  | program, s => if s = helpWord then some help else (CommandName.ofText? s).map command
  | command _, _ | help, _ => none

/-- The lines on a topic. -/
def lines : Topic → List String
  | program => [
    "Translation and number speech tools",
    "",
    "Usage: glossa [OPTIONS] <COMMAND>",
    "",
    "Commands:",
    "  translate  Translate a key using JSON translation files",
    "  speak      Convert a number to words",
    "  check      Check JSON translation files",
    "  coverage   Report translation coverage across locales",
    "  help       Print this message or the help of the given subcommand(s)",
    "",
    "Options:",
    "      --color <COLOR>  Color output control [default: auto] [possible values: auto, always, " ++
      "never]",
    "  -v, --verbose        Enable verbose output",
    "  -h, --help           Print help",
    "  -V, --version        Print version"]
  | command .translate => [
    "Translate a key using JSON translation files",
    "",
    "Usage: glossa translate [OPTIONS] --file <FILES> --key <KEY>",
    "",
    "Options:",
    "      --color <COLOR>        Color output control [default: auto] [possible values: auto, " ++
      "always, never]",
    "  -f, --file <FILES>         Translation files in locale=path format (repeatable)",
    "  -k, --key <KEY>            Dotted translation key",
    "  -v, --verbose              Enable verbose output",
    "  -l, --locale <LOCALE>      Locale to translate into. Defaults to the first file's locale",
    "  -q, --quantity <QUANTITY>  Quantity for plural selection and \x7b\x7bquantity\x7d\x7d; " ++
      "fractions like 1.5 are allowed",
    "      --var <VARS>           Variables in name=value format (repeatable)",
    "      --strict               Fail instead of printing the key when the translation is missing",
    "      --json                 Output as JSON",
    "  -h, --help                 Print help"]
  | command .speak => [
    "Convert a number to words",
    "",
    "Usage: glossa speak [OPTIONS] <NUMBERS>...",
    "",
    "Arguments:",
    "  <NUMBERS>...  Numbers to convert",
    "",
    "Options:",
    "      --color <COLOR>                  Color output control [default: auto] [possible " ++
      "values: auto, always, never]",
    "  -m, --mapping <MAPPING>              Speech mapping to use [default: american]",
    "      --mappings-file <MAPPING_FILES>  Extra speech mappings in key=path format (repeatable)",
    "  -v, --verbose                        Enable verbose output",
    "      --json                           Output as JSON",
    "  -h, --help                           Print help"]
  | command .check => [
    "Check JSON translation files",
    "",
    "Usage: glossa check [OPTIONS] <FILES>...",
    "",
    "Arguments:",
    "  <FILES>...  Translation files to check (.json)",
    "",
    "Options:",
    "      --color <COLOR>    Color output control [default: auto] [possible values: auto, always, " ++
      "never]",
    "      --source <SOURCE>  Compare each file's keys against this source file",
    "      --json             Output as JSON",
    "  -v, --verbose          Enable verbose output",
    "  -h, --help             Print help"]
  | command .coverage => [
    "Report translation coverage across locales",
    "",
    "Usage: glossa coverage [OPTIONS] --source <SOURCE>",
    "",
    "Options:",
    "      --color <COLOR>                Color output control [default: auto] [possible " ++
      "values: auto, always, never]",
    "      --source <SOURCE>              Source locale file (e.g., en.json)",
    "      --lang <LANG>                  Locales to check coverage for (comma-separated)",
    "  -v, --verbose                      Enable verbose output",
    "      --translations <TRANSLATIONS>  Directory containing translation files. Defaults to " ++
      "source file directory",
    "      --strict                       Exit with non-zero code if any translation is incomplete",
    "      --json                         Output results as JSON",
    "  -h, --help                         Print help"]
  | help => [
    "Print this message or the help of the given subcommand(s)",
    "",
    "Usage: glossa help [COMMAND]...",
    "",
    "Arguments:",
    "  [COMMAND]...  Print help for the subcommand(s)"]

end Topic

end Phrasebook.CommandLine
