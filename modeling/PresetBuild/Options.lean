import PresetBuild.Command
import PresetBuild.Word

/-!
# Options

What a build is to do is settled once, from the words and the switches of the command line, and only
read afterwards. Words are taken in order: the last one decides whether to build, and the last named
preset is the preset, while any `list` has the presets listed. The clear switch overrides the words.
-/

namespace PresetBuild

/-- **What to do beyond listing.** -/
inductive Action where
  | none
  | build
  | clear
  deriving DecidableEq, Repr

/-- **Where presets are discovered.** -/
inductive DiscoveryKind where
  /-- In what the build tool lists. -/
  | listing
  /-- In the preset files of the project. -/
  | file
  deriving DecidableEq, Repr

/-- **The switches of the command line.** -/
structure Flags where
  noOut : Bool := false
  noParallel : Bool := false
  clear : Bool := false
  install : Bool := false
  fromJson : Bool := false
  deriving DecidableEq, Repr

/-- **What a build is to do.** -/
structure Options where
  action : Action
  preset : Option Preset
  /-- Whether the presets are listed before anything else. -/
  listing : Bool
  output : Output
  parallel : Bool
  install : Bool
  source : DiscoveryKind
  deriving DecidableEq, Repr

/-- **What the words come to**: the preset named, whether to list, and what to do after that. -/
structure Wish where
  action : Action := .build
  preset : Option Preset := none
  listing : Bool := false
  deriving DecidableEq, Repr

/-- A wish after one more word. -/
def Wish.hear (w : Wish) : Word → Wish
  | .list => { w with action := .none, listing := true }
  | .build => { w with action := .build }
  | .preset name => { w with action := .build, preset := some ⟨name⟩ }

/-- **The options that words and switches come to.** -/
def Options.ofWords (words : List Word) (flags : Flags) : Options :=
  let wish := words.foldl Wish.hear ({} : Wish)
  { action := if flags.clear then .clear else wish.action
    preset := wish.preset
    listing := wish.listing
    output := if flags.noOut then .silent else .inherit
    parallel := !flags.noParallel
    install := flags.install
    source := if flags.fromJson then .file else .listing }

end PresetBuild
