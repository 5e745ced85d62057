import PresetBuild.Notice

/-!
# Scripts

What a build does is a script: a tree of the things it asks of the world and of the things it says.
It asks which presets there are and to have commands run, and goes on according to the answers; it
gives notices to the person at the terminal and prints the names of presets. A script does nothing
by itself and knows nothing of processes, files or terminals, so one script is run in many worlds.
-/

namespace PresetBuild

/-- **How a command came out**: whether it ended well, if it could be started at all, and how long
that took. -/
structure Report where
  answer : Except Fault Bool
  took : Elapsed

/-- **A script** that ends in an answer. -/
inductive Script (α : Type) where
  | done (answer : α)
  /-- Ask which presets there are. -/
  | query (next : List Preset → Script α)
  /-- Have a command run. -/
  | start (command : Command) (output : Output) (next : Report → Script α)
  /-- Give a notice. -/
  | tell (notice : Notice) (next : Script α)
  /-- Print the name of a preset. -/
  | print (preset : Preset) (next : Script α)

namespace Script

variable {α β : Type}

/-- One script behind another, which it may look at the answer of. -/
def bind (s : Script α) (f : α → Script β) : Script β :=
  match s with
  | .done a => f a
  | .query next => .query fun ps => (next ps).bind f
  | .start c o next => .start c o fun r => (next r).bind f
  | .tell n next => .tell n (next.bind f)
  | .print p next => .print p (next.bind f)

instance : Monad Script where
  pure := Script.done
  bind := Script.bind

/-- The presets there are. -/
def presets : Script (List Preset) :=
  .query .done

/-- How a command comes out. -/
def run (c : Command) (o : Output) : Script Report :=
  .start c o .done

/-- Say something. -/
def say (n : Notice) : Script Unit :=
  .tell n (.done ())

/-- Say something if there is something to say. -/
def sayMaybe : Option Notice → Script Unit
  | some n => say n
  | none => .done ()

/-- Print the names of presets. -/
def printAll : List Preset → Script Unit
  | [] => .done ()
  | p :: ps => .print p (printAll ps)

end Script

end PresetBuild
