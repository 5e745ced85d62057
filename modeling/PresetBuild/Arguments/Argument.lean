import PresetBuild.Text.Lowercase

/-!
# Arguments

The arguments of the command line are sorted before anything is read from them. A text that begins
with two dashes names a flag, in any mixture of cases: if its lower case up to the first `=` is a
known flag, the flag is kept, with the lower case of what follows the `=`; otherwise the text is set
aside, as it was written. Every other text is kept as it is, and so are two dashes alone.

Whether a kept text is a word, a value or a mistake depends on what stands before it, which is
`PresetBuild.Arguments.Grammar`'s matter.
-/

namespace PresetBuild

/-- **The switches**: flags that are on or off. -/
inductive Switch where
  | noOut
  | noParallel
  | clear
  | install
  | fromJson
  deriving DecidableEq, Repr

/-- **The flags with a name of two dashes.** -/
inductive LongFlag where
  | switch (s : Switch)
  /-- Takes the name of a shell. -/
  | completions
  | help
  | version
  deriving DecidableEq, Repr

/-- The name of a switch. -/
def Switch.name : Switch → String
  | .noOut => "--no-out"
  | .noParallel => "--no-parallel"
  | .clear => "--clear"
  | .install => "--install"
  | .fromJson => "--from-json"

namespace LongFlag

/-- The name of a flag. -/
def name : LongFlag → String
  | .switch s => s.name
  | .completions => "--completions"
  | .help => "--help"
  | .version => "--version"

/-- The known flags, in the order in which they are documented. -/
def all : List LongFlag :=
  [.switch .noOut, .switch .noParallel, .switch .clear, .switch .install, .switch .fromJson,
    .completions, .help, .version]

/-- The flag of a name. -/
def ofName? (name : List Char) : Option LongFlag :=
  all.find? fun f => f.name.toList == name

end LongFlag

/-- **An argument that is kept.** -/
inductive Argument where
  /-- A known flag, with the value given behind an `=`. -/
  | flag (f : LongFlag) (value : Option String)
  /-- Two dashes alone, or a text that does not begin with two dashes. -/
  | plain (text : String)
  deriving DecidableEq, Repr

namespace Argument

/-- The text of an argument. -/
def text : Argument → String
  | .flag f none => f.name
  | .flag f (some value) => f.name ++ "=" ++ value
  | .plain text => text

/-- What stands behind the first `=`, if there is one. -/
def valueOf (text : List Char) : Option String :=
  match text.dropWhile (· != '=') with
  | [] => none
  | _ :: value => some (String.ofList value)

/-- The flag that a text in lower case names, with its value. -/
def flag? (lower : List Char) : Option Argument :=
  (LongFlag.ofName? (lower.takeWhile (· != '='))).map fun f => .flag f (valueOf lower)

/-- Whether a text names a flag, known or not. -/
def namesFlag (text : List Char) : Bool :=
  "--".toList.isPrefixOf text && text != "--".toList

/-- **The argument that a text is**, if it is kept. -/
def ofText? (text : String) : Option Argument :=
  if namesFlag text.toList then flag? (Text.lowercase text.toList) else some (.plain text)

/-- **The arguments kept of some texts, and the texts set aside**, each in order. -/
def sort (texts : List String) : List Argument × List String :=
  (texts.filterMap ofText?, texts.filter fun t => (ofText? t).isNone)

end Argument

end PresetBuild
