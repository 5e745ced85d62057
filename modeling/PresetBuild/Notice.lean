import PresetBuild.BuildError
import PresetBuild.Elapsed
import PresetBuild.Text.Ink

/-!
# Notices

What a build has to say to the person at the terminal is a notice: a value, not yet a text. Its
line (`Notice.line`) has a coloured glyph for its severity in front; the message is plain but for
the words a hint points at. Notices go to standard error; standard output is for the names of
presets alone.
-/

namespace PresetBuild

open Text (Ink)

/-- **How grave a notice is.** -/
inductive Severity where
  | info
  | success
  | warning
  | error
  | hint
  deriving DecidableEq, Repr

namespace Severity

/-- The glyph in front of a line. -/
def glyph : Severity → String
  | .info => "⚡"
  | .success => "✓"
  | .warning => "!"
  | .error => "x"
  | .hint => "💡"

/-- The colour of the glyph. -/
def ink : Severity → Ink
  | .info | .warning | .hint => .yellow
  | .success => .green
  | .error => .red

/-- The margin of a line: a hint belongs to the line above it. -/
def margin : Severity → String
  | .hint => "   "
  | _ => ""

/-- A text painted where colour is wanted. -/
def painted (ink : Ink) (color : Bool) (text : String) : String :=
  String.ofList (ink.paint color text.toList)

/-- **The line of a message.** -/
def line (s : Severity) (color : Bool) (message : String) : String :=
  s.margin ++ painted s.ink color s.glyph ++ " " ++ message ++ "\n"

end Severity

/-- **What a build has to say.** -/
inductive Notice where
  /-- The presets are about to be listed. -/
  | listing
  /-- No preset was named, and the first one is taken. -/
  | defaulting (preset : Preset)
  /-- A stage begins. -/
  | started (stage : Stage)
  /-- A stage has ended well. -/
  | finished (stage : Stage) (took : Elapsed)
  /-- All is done. -/
  | done
  /-- The failure may be explained by output that was hidden. -/
  | outputHidden
  /-- The presets that there are, after one that there is not. -/
  | available (presets : List Preset)
  /-- An argument was passed over. -/
  | ignoring (argument : String)
  /-- The build failed. -/
  | failed (error : BuildError)
  deriving DecidableEq, Repr

namespace Notice

/-- How grave a notice is. -/
def severity : Notice → Severity
  | .listing | .defaulting _ | .started _ => .info
  | .finished _ _ | .done => .success
  | .outputHidden | .available _ => .hint
  | .ignoring _ => .warning
  | .failed _ => .error

/-- The names of presets, in one line. -/
def names (presets : List Preset) : String :=
  String.intercalate ", " (presets.map Preset.name)

/-- **The message of a notice**, in which a hint's words may be coloured. -/
def message (color : Bool) : Notice → String
  | .listing => "Listing available presets"
  | .defaulting p => "Defaulting to: " ++ p.name
  | .started s => s.label ++ " started."
  | .finished s took => s.label ++ " finished. Took: " ++ took.text
  | .done => "Done."
  | .outputHidden =>
    "CMake output was hidden. Rerun without " ++ Severity.painted .boldYellow color "--no-out"
      ++ " to see it."
  | .available ps => "Available presets: " ++ Severity.painted .cyan color (names ps)
  | .ignoring a => "Ignoring unknown argument '" ++ a ++ "'"
  | .failed e => e.message

/-- **The line of a notice.** -/
def line (color : Bool) (n : Notice) : String :=
  n.severity.line color (n.message color)

/-- What can be said about a preset that there is not: the presets that there are, if any. -/
def unknownPresetHint (available : List Preset) : Option Notice :=
  if available.isEmpty then none else some (.available available)

/-- What can be said about a failure whose output went to `output`. -/
def failureHint : Output → Option Notice
  | .silent => some .outputHidden
  | .inherit => none

end Notice

end PresetBuild
