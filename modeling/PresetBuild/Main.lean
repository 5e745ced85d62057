import PresetBuild.CommandLine

/-!
# The program

The outer layer: it reads the command line, carries its request out, and decides nothing by itself.

Programs are started by whoever runs this one. Each command is written to standard output as one
line, `capture`, `run` or `silent` with the arguments behind it, quoted for a shell, and how it came
out is read from standard input: `exit` or `signal` with a number, or `fault` with the system's
error number. Behind a capture that came out follow the captured lines, each after a `|`, up to an
empty line. A completion script is asked for in the same way, by `complete` and the name of the
shell, and its lines follow as captured lines do.
-/

namespace PresetBuild.Main

/-- An argument quoted for a shell. -/
def quoted (argument : String) : String :=
  let inner := argument.toList.flatMap fun c => if c = '\'' then "'\\''".toList else [c]
  "'" ++ String.ofList inner ++ "'"

/-- The line that hands a command over. -/
def request (verb : String) (c : Command) : String :=
  String.intercalate " " (verb :: c.argv.map quoted)

/-- A line of standard input, without its end. -/
def answerLine : IO String := do
  let line ← (← IO.getStdin).getLine
  return String.ofList (line.toList.filter (· != '\n'))

/-- A line of the captured output, where there is one more. -/
partial def capturedLines : IO String := do
  let line ← answerLine
  match line.toList with
  | '|' :: text => return String.ofList text ++ "\n" ++ (← capturedLines)
  | _ => return ""

/-- How a command came out, by the line that says so. -/
def status? (line : String) : Except Fault Status :=
  match (Text.pieces ' ' line.toList).map String.ofList with
  | ["exit", n] => .ok (.exited (UInt8.ofNat (n.toNat?.getD 1)))
  | ["signal", n] => .ok (.killed (n.toNat?.getD 0))
  | ["fault", n] => .error (.system (n.toNat?.getD 0))
  | _ => .error (.plain .other)

/-- Hands a command over and reads how it came out. -/
def handOver (verb : String) (c : Command) : IO (Except Fault Status) := do
  if c.hasNul then return .error .nulCharacter
  IO.println (request verb c)
  (← IO.getStdout).flush
  return status? (← answerLine)

/-- A listing captured. -/
def captureListing : IO (Except Fault String) := do
  match ← handOver "capture" .listPresets with
  | .error f => return .error f
  | .ok _ => return .ok (← capturedLines)

/-- The completion script for a shell. -/
def completionScript (shell : Shell) : IO String := do
  IO.println ("complete " ++ shell.name)
  (← IO.getStdout).flush
  capturedLines

/-- A command run, with the time that it took. -/
def runCommand (c : Command) (output : Output) : IO Report := do
  let verb := match output with
    | .inherit => "run"
    | .silent => "silent"
  let (status, took) ← timed IO.monoNanosNow (handOver verb c)
  return ⟨status.map Status.success, took⟩

/-- What stands under a name in the working directory. -/
def fileState (name : String) : IO FileState := do
  try
    return .holding (← IO.FS.readBinFile name).toList
  catch _ =>
    return .unreadable

/-- The presets there are. -/
def discover (source : DiscoveryKind) : IO (List Preset) := do
  match source with
  | .listing => return Listing.ofCapture (← captureListing)
  | .file =>
    let files : PresetFiles :=
      ⟨← fileState PresetFiles.projectFile, ← fileState PresetFiles.userFile⟩
    return files.presets

/-- Gives a notice. -/
def tell (color : Bool) (n : Notice) : IO Unit :=
  IO.eprint (n.line color)

/-- Carries a script out. -/
def carryOut {α : Type} (source : DiscoveryKind) (color : Bool) : Script α → IO α
  | .done a => return a
  | .query next => do
    let presets ← discover source
    carryOut source color (next presets)
  | .start c output next => do
    let report ← runCommand c output
    carryOut source color (next report)
  | .tell n next => do
    tell color n
    carryOut source color next
  | .print p next => do
    IO.println p.name
    carryOut source color next

/-- Whether the working directory is to be found. -/
def directoryStands : IO Bool := do
  try
    let _ ← IO.currentDir
    return true
  catch _ =>
    return false

/-- Carries a build out. -/
def build (color : Bool) (ignored : List String) (o : Options) : IO UInt32 := do
  for a in ignored do
    tell color (.ignoring a)
  if o.source == .file && !(← directoryStands) then
    IO.eprint directoryError
    return 1
  match ← carryOut o.source color o.build with
  | .ok () => return 0
  | .error e =>
    tell color (.failed e)
    return 1

/-- Carries a request out. -/
def perform (color : Bool) : Request → IO UInt32
  | .help name => do
    IO.print (Arguments.help name)
    return 0
  | .version => do
    IO.print Arguments.version
    return 0
  | .refuse name e => do
    IO.eprint (e.message name)
    return 2
  | .complete shell => do
    IO.print (← completionScript shell)
    return 0
  | .build ignored o => build color ignored o

/-- Whether colours are used, by the variables that force, refuse and allow them. To force or to
allow them a variable must not be `0`, to refuse them it need only be there. They are allowed by
default, on a terminal alone. -/
def wantsColor (forced refused allowed : Option String) (terminal : Bool) : Bool :=
  if forced.any (· != "0") then true
  else if refused.isSome then false
  else allowed != some "0" && terminal

/-- Whether colours are used in the environment of this program. -/
def environmentColor : IO Bool := do
  let forced ← IO.getEnv "CLICOLOR_FORCE"
  let refused ← IO.getEnv "NO_COLOR"
  let allowed ← IO.getEnv "CLICOLOR"
  return wantsColor forced refused allowed (← (← IO.getStdout).isTty)

end PresetBuild.Main

/-- The program. -/
def main (arguments : List String) : IO UInt32 := do
  let color ← PresetBuild.Main.environmentColor
  PresetBuild.Main.perform color
    (PresetBuild.Request.ofArguments (PresetBuild.Arguments.ownName :: arguments))
