import PresetBuild.Json.Value
import PresetBuild.Preset
import PresetBuild.Text.Utf8

/-!
# Preset files

A project keeps its presets in a file of its own and may have a second one for the user's. Each is
a JSON text whose `configurePresets` are the presets, each with a `name` and perhaps `hidden`. Where
an object is expected, an array of the same values in that order serves too.

The reading is strict where the file speaks of presets and lenient elsewhere. A key of this
library's interest may occur once, after its escapes are read; every other member is passed over,
whatever well-formed value it has and however often it occurs. Names and the keys of files and
presets must be text, without lone surrogates.

A file is taken whole or not at all: one fault anywhere, and it contributes no preset.
-/

namespace PresetBuild

open Json (Value Written characters?)

/-- **A preset as a file has it.** -/
structure Entry where
  name : List Char
  hidden : Bool
  deriving DecidableEq, Repr

namespace PresetFile

/-- The members of an object, with the text of their keys; none where a key is no text. -/
def members? : List (Written × Value) → Option (List (List Char × Value))
  | [] => some []
  | (k, v) :: rest =>
    match characters? k, members? rest with
    | some key, some others => some ((key, v) :: others)
    | _, _ => none

/-- The values that members of one key have, in order. -/
def valuesOf (key : String) (members : List (List Char × Value)) : List Value :=
  (members.filter fun m => m.1 == key.toList).map Prod.snd

/-- An entry of a name as it is written. -/
def namedEntry? (written : Written) (hidden : Bool) : Option Entry :=
  (characters? written).map fun name => ⟨name, hidden⟩

/-- The entry whose name and hidden mark are given by the values there are for them. -/
def entryOf? : List Value → List Value → Option Entry
  | [.string w], [] => namedEntry? w false
  | [.string w], [.bool hidden] => namedEntry? w hidden
  | _, _ => none

/-- **The entry that a value is.** -/
def entry? : Value → Option Entry
  | .array [name] => entryOf? [name] []
  | .array [name, hidden] => entryOf? [name] [hidden]
  | .object ms =>
    match members? ms with
    | some members => entryOf? (valuesOf "name" members) (valuesOf "hidden" members)
    | none => none
  | _ => none

/-- The entries of all the values of a list; none where one of them is no entry. -/
def entryList? : List Value → Option (List Entry)
  | [] => some []
  | v :: vs =>
    match entry? v, entryList? vs with
    | some e, some es => some (e :: es)
    | _, _ => none

/-- The entries that the values given for them hold. -/
def entriesOf? : List Value → Option (List Entry)
  | [] => some []
  | [.array vs] => entryList? vs
  | _ => none

/-- **The entries of a file's value.** -/
def entries? : Value → Option (List Entry)
  | .array vs => entriesOf? vs
  | .object ms =>
    match members? ms with
    | some members => entriesOf? (valuesOf "configurePresets" members)
    | none => none
  | _ => none

/-- The entries of a file's text, if the text is a preset file's. -/
def ofText? (text : List Char) : Option (List Entry) :=
  match Value.ofText? text with
  | some v => entries? v
  | none => none

/-- The entries of a file's bytes, if the bytes are a preset file's. -/
def ofBytes? (bytes : List UInt8) : Option (List Entry) :=
  match Text.Utf8.decode bytes with
  | .ok text => ofText? text
  | .error _ => none

/-- The presets of entries: those that are not hidden. -/
def visible (entries : List Entry) : List Preset :=
  (entries.filter fun e => !e.hidden).map fun e => ⟨String.ofList e.name⟩

end PresetFile

/-- **What stands where a preset file is looked for.** -/
inductive FileState where
  /-- Nothing, or a link to nothing. -/
  | absent
  /-- Something that is no file, or a file that may not be read. -/
  | unreadable
  | holding (bytes : List UInt8)
  deriving DecidableEq, Repr

/-- **The presets that a file contributes.** -/
def FileState.presets : FileState → List Preset
  | .holding bytes => PresetFile.visible ((PresetFile.ofBytes? bytes).getD [])
  | _ => []

/-- **The preset files of a project**: its own and its user's. -/
structure PresetFiles where
  project : FileState
  user : FileState
  deriving DecidableEq, Repr

/-- The name of the project's file. -/
def PresetFiles.projectFile : String := "CMakePresets.json"

/-- The name of the user's file. -/
def PresetFiles.userFile : String := "CMakeUserPresets.json"

/-- **The presets of a project's files**: the project's before the user's. -/
def PresetFiles.presets (f : PresetFiles) : List Preset :=
  f.project.presets ++ f.user.presets

end PresetBuild
