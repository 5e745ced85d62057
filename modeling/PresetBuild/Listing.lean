import PresetBuild.Fault
import PresetBuild.Preset
import PresetBuild.Text.Blank
import PresetBuild.Text.Pieces

/-!
# The listing of the build tool

The build tool lists presets for people to read:

```text
Available configure presets:

  "linux-debug"   - Linux Debug
  "linux-release" - Linux Release
```

The lines of the heading and the piece after the last newline are dropped by count. Of each line
between them white space is removed, and the name is what then stands between its last two double
quotes; a line with fewer quotes names nothing.

Because the last piece is always dropped, a listing that stops in the middle of a line never yields
a name cut short.
-/

namespace PresetBuild.Listing

open Text (isBlank)

/-- How many lines the heading has. -/
def headerLines : Nat := 2

/-- How many pieces stand after the last preset: the empty one behind the final newline. -/
def footerLines : Nat := 1

/-- The lines of a listing that may name a preset. -/
def entryLines (text : List Char) : List (List Char) :=
  let body := (Text.pieces '\n' text).drop headerLines
  body.take (body.length - footerLines)

/-- What stands between the last two double quotes of a text. -/
def lastQuoted? (text : List Char) : Option (List Char) :=
  match text.reverse.dropWhile (· != '"') with
  | [] => none
  | _ :: before =>
    if before.contains '"' then some (before.takeWhile (· != '"')).reverse else none

/-- The name that a line gives, if it gives one. -/
def name? (line : List Char) : Option (List Char) :=
  lastQuoted? (line.filter fun c => !isBlank c)

/-- **The names of a listing**, in order. -/
def names (text : List Char) : List (List Char) :=
  (entryLines text).filterMap name?

/-- **The presets of a listing.** -/
def presets (text : String) : List Preset :=
  (names text.toList).map fun n => ⟨String.ofList n⟩

/-- **The presets of a listing that was captured**: none if it could not be. -/
def ofCapture : Except Fault String → List Preset
  | .ok text => presets text
  | .error _ => []

end PresetBuild.Listing
