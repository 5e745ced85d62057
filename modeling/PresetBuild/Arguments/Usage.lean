import PresetBuild.Arguments.Grammar
import PresetBuild.Arguments.Similarity
import PresetBuild.Text.Pieces
import PresetBuild.Text.Plain

/-!
# Help, version and usage errors

The texts that answer a command line which asks for no build. They name the program as it was
called: `programName` takes the last component of the path it was called by, and where that gives no
name the program goes by its own (`ownName`).

What comes from the command line, the program's name included, is shown without control sequences
(`plain`). Only the search for the shell meant goes by the value as it was given.
-/

namespace PresetBuild.Arguments

/-- The program's own name. -/
def ownName : String := "pbuild"

/-- The version of the program. -/
def ownVersion : String := "0.1.0"

/-- The components of a path, without those that lead nowhere. -/
def components (path : List Char) : List (List Char) :=
  (Text.pieces '/' path).filter fun c => c != [] && c != ['.']

/-- **The name of a program called by a path.** -/
def programName (path : String) : String :=
  match (components path.toList).getLast? with
  | none => ownName
  | some name => if name = ['.', '.'] then ownName else String.ofList name

/-- A text from the command line as it is shown. -/
def plain (text : String) : String :=
  String.ofList (Text.plain text.toList)

/-- The line that says how a program is used. -/
def usageLine (name usage : String) : String :=
  "Usage: " ++ plain name ++ " " ++ usage

/-- How a program is used. -/
def usage (name : String) : String :=
  usageLine name "[OPTIONS] [COMMAND]..."

/-- **The help text.** -/
def help (name : String) : String :=
  "Configure, build and install CMake presets\n\n"
    ++ usage name
    ++ "\n\nArguments:\n"
    ++ "  [COMMAND]...  list, build or preset=<name> (processed in order, case-insensitive)\n"
    ++ "\nOptions:\n"
    ++ "      --no-out               Hide cmake's stdout and stderr\n"
    ++ "      --no-parallel          Don't pass --parallel to the build step\n"
    ++ "      --clear                Run the clean target instead of building\n"
    ++ "      --install              Install after a successful build (uses sudo)\n"
    ++ "      --from-json            Read presets from CMakePresets.json instead of "
    ++ "`cmake --list-presets`\n"
    ++ "      --completions <SHELL>  Print a shell completion script and exit "
    ++ "[possible values: bash, elvish, fish, powershell, zsh]\n"
    ++ "  -h, --help                 Print help\n"
    ++ "  -V, --version              Print version\n"

/-- The text of the version. -/
def version : String :=
  ownName ++ " " ++ ownVersion ++ "\n"

/-- A flag as errors show it, with the value that it takes. -/
def shown : LongFlag → String
  | .completions => "--completions <SHELL>"
  | f => f.name

/-- Whether a flag asks something of the program itself. -/
def asksItself : LongFlag → Bool
  | .help | .version => true
  | _ => false

/-- All that can be given to a build, as a choice. -/
def choice : String :=
  "<" ++ String.intercalate "|"
    ("COMMAND" :: (LongFlag.all.filter fun f => !asksItself f).map shown) ++ ">"

/-- How a program is used with a flag. Where something was given beside it, all that can be given is
offered, and the flag is named only if it is not among that. -/
def usageWith (f : LongFlag) (given : Bool) : String :=
  if given then (if asksItself f then shown f ++ " " else "") ++ choice
  else shown f ++ " [COMMAND]..."

/-- The line that names the shells. -/
def shellLine : String :=
  "\n  [possible values: " ++ String.intercalate ", " (Shell.all.map Shell.name) ++ "]\n\n"

/-- The line that points at the shell meant, if one is alike enough. -/
def shellTip (value : String) : String :=
  match Similarity.closest? value.toList (Shell.all.map Shell.name) with
  | some shell => "  tip: a similar value exists: '" ++ shell ++ "'\n\n"
  | none => ""

/-- What an error says, up to the pointer at the help. -/
def UsageError.body (name : String) : UsageError → String
  | .unexpectedLetter c =>
    let option := plain ("-" ++ String.singleton c)
    "unexpected argument '" ++ option ++ "' found\n\n  tip: to pass '" ++ option
      ++ "' as a value, use '-- " ++ option ++ "'\n\n" ++ usage name ++ "\n\n"
  | .repeated f =>
    "the argument '" ++ shown f ++ "' cannot be used multiple times\n\n" ++ usage name ++ "\n\n"
  | .unwantedValue f value given =>
    "unexpected value '" ++ plain value ++ "' for '" ++ shown f
      ++ "' found; no more were expected\n\n" ++ usageLine name (usageWith f given) ++ "\n\n"
  | .missingShell =>
    "a value is required for '" ++ shown .completions ++ "' but none was supplied" ++ shellLine
  | .unknownShell value =>
    "invalid value '" ++ plain value ++ "' for '" ++ shown .completions ++ "'" ++ shellLine
      ++ shellTip value

/-- **The text of an error.** -/
def UsageError.message (name : String) (e : UsageError) : String :=
  "error: " ++ e.body name ++ "For more information, try '--help'.\n"

end PresetBuild.Arguments
