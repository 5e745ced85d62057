import PresetBuild.Preset

/-!
# Commands

A command is a program with its arguments, and whether it needs administrator rights. A build is
made of five commands (`listPresets`, `configure`, `build`, `clean`, `install`), of which only the
last needs such rights.

A command has two readings. `Command.argv` is what is started, one text per argument, so that an
argument with spaces or with none at all stays one argument. `Command.text` is the line shown to
people; it joins with spaces and does not quote.
-/

namespace PresetBuild

/-- **What becomes of a command's output.** -/
inductive Output where
  /-- It goes where this program's own output goes. -/
  | inherit
  /-- It is thrown away. -/
  | silent
  deriving DecidableEq, Repr

/-- **A command.** -/
structure Command where
  program : String
  arguments : List String
  /-- Whether administrator rights are needed. -/
  elevated : Bool
  deriving DecidableEq, Repr

/-- The build tool. -/
def buildTool : String := "cmake"

/-- The program that lends administrator rights to another. -/
def elevator : String := "sudo"

/-- The directory below which every preset has its build directory. -/
def buildRoot : String := "builds"

/-- Whether administrator rights can be asked for at all. -/
def canElevate : Bool := true

/-- The build directory of a preset. -/
def Preset.buildDirectory (p : Preset) : String :=
  buildRoot ++ "/" ++ p.name

namespace Command

/-- The build tool, with arguments and no special rights. -/
def tool (arguments : List String) : Command :=
  ⟨buildTool, arguments, false⟩

/-- Ask for the presets there are. -/
def listPresets : Command :=
  tool ["--list-presets"]

/-- Configure a preset. -/
def configure (p : Preset) : Command :=
  tool ["--preset=" ++ p.name]

/-- Build what was configured, on all processors or on one. -/
def build (p : Preset) (parallel : Bool) : Command :=
  tool (["--build", p.buildDirectory] ++ if parallel then ["--parallel"] else [])

/-- Remove what was built. -/
def clean (p : Preset) : Command :=
  tool ["--build", p.buildDirectory, "--target", "clean"]

/-- Install what was built. -/
def install (p : Preset) : Command :=
  ⟨buildTool, ["--install", p.buildDirectory], true⟩

/-- **What is started for a command**: the program and its arguments, behind the elevator where
administrator rights are needed. -/
def argv (c : Command) : List String :=
  (if c.elevated then [elevator] else []) ++ c.program :: c.arguments

/-- **The line shown for a command.** -/
def text (c : Command) : String :=
  String.intercalate " " c.argv

end Command

end PresetBuild
