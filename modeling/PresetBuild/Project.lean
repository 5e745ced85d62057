import PresetBuild.FileTree
import PresetBuild.Machine

/-!
# Projects with stand-in tools

A project is a directory to build in, together with stand-ins for the build tool and the elevator,
so that a whole build can be gone through without building anything. Asked to list presets, the
build tool writes a given listing. Asked anything else, a stand-in writes its own command line and
ends with the next of the given statuses. The elevator's stand-in runs nothing.

The stand-ins are files in a directory of the project, and programs are looked for by name in that
directory alone. A program given with a slash is a path from the project's directory. Nothing but a
stand-in can be started: a directory and a file that may not be run are refused alike, and what else
a path may lead to in the world around the project is taken not to be there.

A stand-in goes by its own name (`Project.kept`), whatever path led to it.
-/

namespace PresetBuild

/-- **Whether a stand-in can be started.** -/
inductive Availability where
  | ready
  | missing
  /-- There is a file of that name, but it may not be run. -/
  | notExecutable
  deriving DecidableEq, Repr

/-- **The stand-ins.** -/
inductive StandIn where
  | tool
  | elevator
  deriving DecidableEq, Repr

/-- The name of a stand-in: that of the program it stands in for. -/
def StandIn.name : StandIn → String
  | .tool => buildTool
  | .elevator => PresetBuild.elevator

/-- **A project with stand-in tools.** -/
structure Project where
  tool : Availability
  elevator : Availability
  /-- What the build tool writes when it is asked to list presets. -/
  listing : List UInt8
  /-- How the build tool ends when it is asked to list presets. -/
  listingStatus : Status
  /-- How the other programs end, by the number of such programs started before. -/
  statuses : Nat → Status
  files : PresetFiles
  /-- Whether the directory was removed. -/
  directoryGone : Bool

namespace Project

variable (p : Project)

/-! ## Programs -/

/-- Whether a stand-in can be started. -/
def availability : StandIn → Availability
  | .tool => p.tool
  | .elevator => p.elevator

/-- **A project's files**, each with the stand-in that runs as it, if one may. -/
abbrev Files := FileTree (Option StandIn)

/-- The file of a stand-in, if there is one. -/
def program (s : StandIn) : List (String × Files) :=
  match p.availability s with
  | .ready => [(s.name, .file (some s))]
  | .notExecutable => [(s.name, .file none)]
  | .missing => []

/-- What stands under the name of a preset file. Only a directory cannot be read. -/
def presetFile (name : String) : FileState → List (String × Files)
  | .absent => []
  | .unreadable => [(name, .directory [])]
  | .holding _ => [(name, .file none)]

/-- The name of the directory of the stand-ins. -/
def programsName : String := "bin"

/-- The directory of the stand-ins. -/
def programs : Files :=
  .directory (p.program .tool ++ p.program .elevator)

/-- The project's directory. -/
def directory : Files :=
  .directory ((programsName, p.programs)
    :: presetFile PresetFiles.projectFile p.files.project
    ++ presetFile PresetFiles.userFile p.files.user)

/-- The place of the project's directory. -/
def place : Place (Option StandIn) :=
  ⟨p.directory, [.directory []]⟩

/-- The place of the directory of the stand-ins. -/
def programsPlace : Place (Option StandIn) :=
  ⟨p.programs, p.directory :: p.place.above⟩

/-- The stand-in that starts where a path leads. -/
def startable : Except Fault (Place (Option StandIn)) → Except Fault StandIn
  | .error f => .error f
  | .ok ⟨.file (some s), _⟩ => .ok s
  | .ok _ => .error .notPermitted

/-- **The stand-in that a program's name or path starts.** -/
def standIn (program : String) : Except Fault StandIn :=
  startable
    ((if program.toList.contains '/' then p.place else p.programsPlace).follow program)

/-- A call as the stand-in that it started keeps it. -/
def kept : List String → List String
  | [] => []
  | program :: arguments =>
    match p.standIn program with
    | .ok s => s.name :: arguments
    | .error _ => program :: arguments

/-! ## Answers -/

/-- Whether the build tool is asked to list presets. -/
def isListing : List String → Bool
  | program :: argument :: _ => program == buildTool && argument == "--list-presets"
  | _ => false

/-- How many programs were started that were not asked to list presets. -/
def others (calls : List (List String)) : Nat :=
  (calls.filter fun argv => !isListing (p.kept argv)).length

/-- A line as bytes. -/
def lineBytes (text : String) : List UInt8 :=
  Text.Utf8.encode (text ++ "\n").toList

/-- **What a stand-in does.** -/
def respond (earlier : List (List String)) (s : StandIn) (arguments : List String) : Finished :=
  let call := s.name :: arguments
  if isListing call then
    ⟨p.listingStatus, p.listing, lineBytes "listing noise", ⟨0⟩⟩
  else
    ⟨p.statuses (p.others earlier), lineBytes (String.intercalate " " call),
      lineBytes (s.name ++ " stderr"), ⟨0⟩⟩

/-- The length from which on the system takes no argument. -/
def argumentLimit : Nat := 131072

/-- **The machine of a project.** -/
def machine : Machine where
  start earlier argv :=
    match argv with
    | [] => .error .noSuchFile
    | program :: arguments =>
      match p.standIn program with
      | .error f => .error f
      | .ok s =>
        if arguments.any fun a => decide (argumentLimit ≤ a.utf8ByteSize) then
          .error .argumentTooLong
        else .ok (p.respond earlier s arguments)

/-- The world of a project. -/
def world (source : DiscoveryKind) : World Session :=
  p.machine.world source p.files

end Project

end PresetBuild
