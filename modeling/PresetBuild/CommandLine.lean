import PresetBuild.Arguments.Usage
import PresetBuild.Build
import PresetBuild.Project

/-!
# The command line

A command line is understood before anything is done (`Request.ofArguments`). The first argument
kept is the name by which the program was called; the others ask for help, the version, completions
or a build, or are a mistake. A request is then answered in a project (`Request.answer`), and the
answer is what can be seen from outside: the exit status, what reached the standard streams, and the
programs started.

Arguments that mean nothing are passed over with a warning, first the unknown flags, then the
unknown words. Only a build warns.

The completion scripts are no work of this library. They are given from outside, one for each shell
(`Scripts`), and whatever they are, a request for one is answered with that script.
-/

namespace PresetBuild

open Arguments (Given Stop UsageError)

/-- **What a command line asks for.** -/
inductive Request where
  | help (name : String)
  | version
  | refuse (name : String) (error : UsageError)
  | complete (shell : Shell)
  /-- A build, with the arguments passed over. -/
  | build (ignored : List String) (options : Options)
  deriving DecidableEq, Repr

/-- The flags that a list of switches sets. -/
def Flags.ofSwitches (switches : List Switch) : Flags where
  noOut := switches.contains .noOut
  noParallel := switches.contains .noParallel
  clear := switches.contains .clear
  install := switches.contains .install
  fromJson := switches.contains .fromJson

namespace Request

/-- What a program called by a name is asked for by what its arguments give, where some arguments
were set aside. -/
def ofGiven (setAside : List String) (g : Given) : Request :=
  match g.shell with
  | some shell => .complete shell
  | none =>
    let words := Word.split g.words
    .build (setAside ++ words.2) (.ofWords words.1 (.ofSwitches g.switches))

/-- What a reading that ended early asks for. -/
def ofStop (name : String) : Stop → Request
  | .help => .help name
  | .version => .version
  | .mistake e => .refuse name e

/-- The name that a program was called by, by the arguments kept. -/
def calledBy : List Argument → String
  | [] => Arguments.ownName
  | a :: _ => Arguments.programName a.text

/-- **What a command line asks for**, the program's name included in it. -/
def ofArguments (arguments : List String) : Request :=
  let sorted := Argument.sort arguments
  match Arguments.parse (sorted.1.drop 1) with
  | .ok given => ofGiven sorted.2 given
  | .error stop => ofStop (calledBy sorted.1) stop

end Request

/-- **The completion scripts**, by the shell that they are for. -/
abbrev Scripts := Shell → String

/-- **What can be seen of a command line from outside.** -/
structure Ending where
  exit : Nat
  stdout : List UInt8 := []
  stderr : List UInt8 := []
  calls : List (List String) := []
  deriving DecidableEq, Repr

namespace Ending

/-- Text on standard output, and success. -/
def answered (text : String) : Ending :=
  { exit := 0, stdout := Text.Utf8.encode text.toList }

/-- Text on standard error, and the exit status of a command line that makes no sense. -/
def refused (text : String) : Ending :=
  { exit := 2, stderr := Text.Utf8.encode text.toList }

end Ending

/-- What is said where the working directory is not to be found. -/
def directoryError : String :=
  "Error: Failed to read current directory\n\nCaused by:\n    "
    ++ Fault.noSuchFile.message ++ "\n"

/-- The warnings about arguments that were passed over. -/
def warnings (ignored : List String) : List Event :=
  ignored.map fun a => .told (.ignoring a)

/-- The last notice of a build: what it failed for, if it failed. -/
def verdict : Except BuildError Unit → List Event
  | .ok () => []
  | .error e => [.told (.failed e)]

/-- The exit status of a build. -/
def exitStatus : Except BuildError Unit → Nat
  | .ok () => 0
  | .error _ => 1

/-- What events leave on standard output. -/
def stdoutOf (events : List Event) : List UInt8 :=
  events.flatMap Event.stdout

/-- What events leave on standard error. -/
def stderrOf (color : Bool) (events : List Event) : List UInt8 :=
  events.flatMap (Event.stderr color)

theorem stdoutOf_append (xs ys : List Event) : stdoutOf (xs ++ ys) = stdoutOf xs ++ stdoutOf ys :=
  List.flatMap_append

theorem stderrOf_append (color : Bool) (xs ys : List Event) :
    stderrOf color (xs ++ ys) = stderrOf color xs ++ stderrOf color ys :=
  List.flatMap_append

/-- Warnings leave nothing on standard output. -/
theorem stdoutOf_warnings (ignored : List String) : stdoutOf (warnings ignored) = [] := by
  induction ignored with
  | nil => rfl
  | cons a ignored ih => exact ih

theorem stdoutOf_verdict (answer : Except BuildError Unit) : stdoutOf (verdict answer) = [] := by
  cases answer <;> rfl

/-- The events of a build in a project, from the warnings to the verdict. -/
def Project.account (p : Project) (ignored : List String) (o : Options) :
    Performance Session (Except BuildError Unit) :=
  let performed := (p.world o.source).perform o.build {}
  { performed with events := warnings ignored ++ performed.events ++ verdict performed.answer }

/-- A build that cannot begin, since the preset files are to be looked for in a directory that is
gone. -/
def strandedEnding (color : Bool) (ignored : List String) : Ending :=
  { exit := 1
    stderr := stderrOf color (warnings ignored) ++ Text.Utf8.encode directoryError.toList }

/-- **A build in a project**, seen from outside. -/
def Project.buildEnding (p : Project) (color : Bool) (ignored : List String) (o : Options) :
    Ending :=
  if o.source = .file ∧ p.directoryGone = true then strandedEnding color ignored
  else
    let account := p.account ignored o
    { exit := exitStatus account.answer
      stdout := stdoutOf account.events
      stderr := stderrOf color account.events
      calls := account.state.calls }

/-- **The answer to a request** in a project, where the completion scripts are these. -/
def Request.answer (scripts : Scripts) (p : Project) (color : Bool) : Request → Ending
  | .help name => .answered (Arguments.help name)
  | .version => .answered Arguments.version
  | .refuse name e => .refused (e.message name)
  | .complete shell => .answered (scripts shell)
  | .build ignored o => p.buildEnding color ignored o

/-- **A command line in a project**, from its arguments to what can be seen of it. -/
def Project.call (p : Project) (scripts : Scripts) (color : Bool) (arguments : List String) :
    Ending :=
  (Request.ofArguments arguments).answer scripts p color

end PresetBuild
