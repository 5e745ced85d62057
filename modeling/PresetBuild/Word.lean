import PresetBuild.Text.Lowercase

/-!
# Words

The plain words of the command line say what to do: `list`, `build`, or `preset=` with a name. A
word is recognised by its lower case, and the name is cut from the word as it was written, so that
it keeps its letters. A name ends at the next `=`, and there is no empty name.
-/

namespace PresetBuild

/-- **A word of the command line.** -/
inductive Word where
  | list
  | build
  | preset (name : String)
  deriving DecidableEq, Repr

/-- **A word that means nothing here.** -/
structure UnknownWord where
  text : String
  deriving DecidableEq, Repr

/-- The wording of the complaint about a word. -/
def UnknownWord.message (w : UnknownWord) : String :=
  "unknown command '" ++ w.text ++ "' (expected list, build or preset=<name>)"

namespace Word

/-- What stands between the first `=` and the next. -/
def assigned (text : List Char) : List Char :=
  ((text.dropWhile (· != '=')).drop 1).takeWhile (· != '=')

/-- **The word that a text is**, if it is one. -/
def ofString? (text : String) : Option Word :=
  let lower := Text.lowercase text.toList
  if lower = "list".toList then some .list
  else if lower = "build".toList then some .build
  else if "preset=".toList.isPrefixOf lower then
    let name := assigned text.toList
    if name.isEmpty then none else some (.preset (String.ofList name))
  else none

/-- The word that a text is, or the complaint about it. -/
def parse (text : String) : Except UnknownWord Word :=
  match ofString? text with
  | some w => .ok w
  | none => .error ⟨text⟩

/-- **The recognised words among some texts, and the other texts**, each in order. -/
def split (texts : List String) : List Word × List String :=
  (texts.filterMap ofString?, texts.filter fun t => (ofString? t).isNone)

end Word

end PresetBuild
