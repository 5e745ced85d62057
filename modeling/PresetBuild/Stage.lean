import PresetBuild.Command

/-!
# Stages

A build goes through stages, one command each. A stage has a label for the messages about it.
-/

namespace PresetBuild

/-- **The stages of a build.** -/
inductive Stage where
  | configure
  | build
  | clean
  | install
  deriving DecidableEq, Repr

/-- The stages, in the order in which they are named. -/
def Stage.all : List Stage :=
  [.configure, .build, .clean, .install]

/-- The label of a stage. -/
def Stage.label : Stage → String
  | .configure => "CMake generation"
  | .build => "CMake build"
  | .clean => "CMake clean"
  | .install => "CMake installation"

instance : ToString Stage := ⟨Stage.label⟩

/-- **A step of a build**: a stage and the command that carries it out. -/
structure Step where
  stage : Stage
  command : Command
  deriving DecidableEq, Repr

end PresetBuild
