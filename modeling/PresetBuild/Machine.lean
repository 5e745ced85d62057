import PresetBuild.Listing
import PresetBuild.Options
import PresetBuild.PresetFile
import PresetBuild.World

/-!
# Machines

A machine starts programs. It is given the programs started before and what to start, and either the
program runs to its end or there is a fault and nothing was started. A session (`Session`) is the
machine's history, the programs that were started, in order.

A command is started as its `argv` says and in no other way. A text with a NUL character cannot be
handed to a program, so a command that has one is refused before the machine is asked. Capturing a
command takes its standard output as UTF-8, strictly and wholly, and pays no heed to how the program
ended; running a command asks only whether it ended with status zero.

What a program writes goes where its streams were led before it was started (`Routing`). A stream
that is inherited lets everything through to the stream of the same name here, a stream that is
piped is read here, and nothing comes of the rest.
-/

namespace PresetBuild

/-- **How a program ends.** -/
inductive Status where
  | exited (code : UInt8)
  | killed (signal : Nat)
  deriving DecidableEq, Repr

/-- Whether a program ended well. -/
def Status.success (s : Status) : Bool :=
  s == .exited 0

/-- **A program that ran to its end**: how it ended, what it wrote, and how long it took. -/
structure Finished where
  status : Status
  stdout : List UInt8
  stderr : List UInt8
  took : Elapsed

/-- **A machine**, by what starting a program comes to after others were started. -/
structure Machine where
  start : (earlier : List (List String)) → (argv : List String) → Except Fault Finished

/-- **The programs started so far**, in order. -/
structure Session where
  calls : List (List String) := []

/-- **Where a stream of a program leads** that is started. -/
inductive Sink where
  /-- To the stream of the same name here. -/
  | inherited
  /-- Into a pipe that is read here, to its end. -/
  | piped
  /-- Nowhere. -/
  | null
  deriving DecidableEq, Repr

namespace Sink

/-- What comes through to the stream here of what is written to a stream. -/
def passed (written : List UInt8) : Sink → List UInt8
  | .inherited => written
  | .piped | .null => []

/-- What is read here of what is written to a stream. -/
def collected (written : List UInt8) : Sink → List UInt8
  | .piped => written
  | .inherited | .null => []

end Sink

/-- **Where the streams of a program lead.** -/
structure Routing where
  stdout : Sink
  stderr : Sink
  deriving DecidableEq, Repr

/-- The streams of a program whose output is captured. -/
def Routing.capturing : Routing := ⟨.piped, .null⟩

/-- The streams of a program that is run. -/
def Output.routing : Output → Routing
  | .inherit => ⟨.inherited, .inherited⟩
  | .silent => ⟨.null, .null⟩

/-- **What a capture comes to**: the text that was captured, and the bytes that the program let
through to the standard streams. -/
structure Captured where
  text : Except Fault String
  stdout : List UInt8 := []
  stderr : List UInt8 := []

/-- The fault of a text that no program can be handed. -/
def Fault.nulCharacter : Fault :=
  .described .invalidInput "nul byte found in provided data"

/-- The fault of output that is not UTF-8. -/
def Fault.notText (m : Text.Utf8.Malformed) : Fault :=
  .described .invalidData m.message

/-- Whether one of the texts of a command has a NUL character. -/
def Command.hasNul (c : Command) : Bool :=
  c.argv.any fun text => text.toList.contains '\x00'

namespace Machine

variable (m : Machine)

/-- What starting a command comes to. -/
def launch (s : Session) (c : Command) : Except Fault Finished :=
  if c.hasNul then .error .nulCharacter else m.start s.calls c.argv

/-- A session once a command was started, or was not. -/
def recorded (s : Session) (c : Command) : Except Fault Finished → Session
  | .ok _ => ⟨s.calls ++ [c.argv]⟩
  | .error _ => s

/-- The text that bytes are. -/
def textOf (bytes : List UInt8) : Except Fault String :=
  match Text.Utf8.decode bytes with
  | .ok text => .ok (String.ofList text)
  | .error malformed => .error (.notText malformed)

/-- What the capture of a command comes to. -/
def capturedOf : Except Fault Finished → Captured
  | .error f => { text := .error f }
  | .ok finished =>
    { text := textOf (Routing.capturing.stdout.collected finished.stdout)
      stdout := Routing.capturing.stdout.passed finished.stdout
      stderr := Routing.capturing.stderr.passed finished.stderr }

/-- **A command's output captured.** -/
def capture (c : Command) (s : Session) : Captured × Session :=
  let launched := m.launch s c
  (capturedOf launched, recorded s c launched)

/-- What a command's run comes to, where its output goes to `output`. -/
def outcomeOf (output : Output) : Except Fault Finished → Outcome
  | .error f => { report := ⟨.error f, ⟨0⟩⟩ }
  | .ok finished =>
    { report := ⟨.ok finished.status.success, finished.took⟩
      stdout := output.routing.stdout.passed finished.stdout
      stderr := output.routing.stderr.passed finished.stderr }

/-- **A command run.** -/
def run (c : Command) (output : Output) (s : Session) : Outcome × Session :=
  let launched := m.launch s c
  (outcomeOf output launched, recorded s c launched)

/-- What a question about presets finds on a machine. -/
def discover (source : DiscoveryKind) (files : PresetFiles) (s : Session) : Discovered × Session :=
  match source with
  | .listing =>
    let captured := m.capture .listPresets s
    ({ asked := some .listPresets
       presets := Listing.ofCapture captured.1.text
       stdout := captured.1.stdout
       stderr := captured.1.stderr }, captured.2)
  | .file => ({ asked := none, presets := files.presets }, s)

/-- **A machine as a world**, where presets are discovered as said and the preset files are these.
-/
def world (source : DiscoveryKind) (files : PresetFiles) : World Session where
  query := m.discover source files
  start := m.run

end Machine

end PresetBuild
