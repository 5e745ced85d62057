import PresetBuild.Fault
import PresetBuild.Text.Pieces

/-!
# Trees of files

A tree is a file or a directory of named trees. A path is followed through it from a place
(`Place.follow`), one name at a time. No name at all and a single dot stay in a directory, and two
dots go up to the directory that it is in, or stay where there is none. All three need a directory
to stand in, so that a path to a file may not end in a slash. A path that begins with a slash is
followed from the top.

Of two things wrong with a path the one that comes first on the way is the fault, except that an
empty path and one that is too long as a whole are refused before the first step. Lengths are those
of the encoded text.
-/

namespace PresetBuild

/-- **A tree of files** with contents of type `α`. -/
inductive FileTree (α : Type) where
  | file (content : α)
  | directory (entries : List (String × FileTree α))

/-- **A place in a tree**: what stands there, and the directories that it is in, the innermost
first. -/
structure Place (α : Type) where
  here : FileTree α
  above : List (FileTree α)

namespace Place

variable {α : Type}

/-- The longest that a name can be. -/
def nameLimit : Nat := 255

/-- The length from which on no path can be. -/
def pathLimit : Nat := 4096

/-- The place one directory up, or the same place at the top. -/
def up (p : Place α) : Place α :=
  match p.above with
  | [] => p
  | parent :: rest => ⟨parent, rest⟩

/-- The place at the top. -/
def top (p : Place α) : Place α :=
  ⟨p.above.getLast?.getD p.here, []⟩

/-- The place of a name in a directory. -/
def entry (p : Place α) (entries : List (String × FileTree α)) (name : String) :
    Except Fault (Place α) :=
  if nameLimit < name.utf8ByteSize then .error .nameTooLong
  else match entries.lookup name with
    | some tree => .ok ⟨tree, p.here :: p.above⟩
    | none => .error .noSuchFile

/-- **One step on a path.** -/
def step (p : Place α) (name : List Char) : Except Fault (Place α) :=
  match p.here with
  | .file _ => .error .notDirectory
  | .directory entries =>
    if name = [] ∨ name = ['.'] then .ok p
    else if name = ['.', '.'] then .ok p.up
    else p.entry entries (String.ofList name)

/-- The place that names lead to, one after the other. -/
def walk (p : Place α) : List (List Char) → Except Fault (Place α)
  | [] => .ok p
  | name :: rest =>
    match p.step name with
    | .ok q => q.walk rest
    | .error f => .error f

/-- **The place that a path leads to.** -/
def follow (p : Place α) (path : String) : Except Fault (Place α) :=
  if path.isEmpty then .error .noSuchFile
  else if pathLimit ≤ path.utf8ByteSize then .error .nameTooLong
  else
    let start := if path.toList.head? = some '/' then p.top else p
    start.walk (Text.pieces '/' path.toList)

end Place

end PresetBuild
