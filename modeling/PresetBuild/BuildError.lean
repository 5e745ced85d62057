import PresetBuild.Fault
import PresetBuild.Stage

/-!
# Why a build fails

A build ends at its first failure, and there is one error per cause. A failed configure step has
two of them: the preset may not exist, or it does and the tool gives no reason.
-/

namespace PresetBuild

/-- **The ways a build fails.** -/
inductive BuildError where
  /-- A preset was wanted, none was named and none could be discovered. -/
  | noPresets
  /-- Configuring failed, and there is no preset of that name. -/
  | unknownPreset (preset : Preset)
  /-- Configuring failed, though the preset exists. -/
  | configureFailed
  | buildFailed
  | cleanFailed
  | installFailed
  /-- Installing was asked for where administrator rights cannot be. -/
  | installUnsupported
  /-- The program of a stage could not be started. -/
  | notStarted (stage : Stage) (fault : Fault)
  deriving DecidableEq, Repr

namespace BuildError

/-- **The wording of an error.** -/
def message : BuildError → String
  | .noPresets => "Platform not supported."
  | .unknownPreset p => "Build failed because '" ++ p.name ++ "' is not an actual preset."
  | .configureFailed => "Build failed for unknown reason(s)."
  | .buildFailed => "CMake build unexpectedly failed."
  | .cleanFailed => "CMake clean unexpectedly failed."
  | .installFailed => "CMake install unexpectedly failed."
  | .installUnsupported =>
    "Installing needs administrator privileges, which cannot be requested on this platform."
  | .notStarted stage fault => "Could not start " ++ stage.label ++ ": " ++ fault.message

/-- The fault behind an error, if there is one. -/
def fault? : BuildError → Option Fault
  | .notStarted _ fault => some fault
  | _ => none

end BuildError

end PresetBuild
