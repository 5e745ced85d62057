import PresetBuild.Options
import PresetBuild.Script

/-!
# Building

The script of a build: list the presets if that is wanted, settle on one, and carry out the stages
of the plan one after another. Nothing is tried twice. The first stage that does not end well ends
the build, and only a failed configure step is looked into: whether the preset exists at all is then
asked for anew, since no answer about presets is ever kept.
-/

namespace PresetBuild

/-! ## Discovery -/

/-- **The preset taken where none is named**: the first one there is. -/
def defaultPreset : Script (Except BuildError Preset) := do
  match ← Script.presets with
  | [] => return .error .noPresets
  | p :: _ => return .ok p

/-- Whether there is a preset of a name. -/
def isPreset (name : String) : Script Bool := do
  let presets ← Script.presets
  return presets.any fun p => p.name == name

namespace Options

/-- **The preset of a build**: the one named, or the first one there is. -/
def resolve (o : Options) : Script (Except BuildError Preset) :=
  match o.preset with
  | some p => return .ok p
  | none => do
    match ← defaultPreset with
    | .error e => return .error e
    | .ok p =>
      Script.say (.defaulting p)
      return .ok p

/-! ## Stages -/

/-- **The plan of a build**: what is carried out, in order, for a preset. -/
def plan (o : Options) (p : Preset) : List Step :=
  match o.action with
  | .none => []
  | .clear => [⟨.clean, .clean p⟩]
  | .build =>
    [⟨.configure, .configure p⟩, ⟨.build, .build p o.parallel⟩]
      ++ if o.install then [⟨.install, .install p⟩] else []

/-- **Why a configure step failed**: there is no such preset, and a hint says which there are, or
there is no reason to be had, and a hint says where one may be hidden. -/
def diagnose (o : Options) (p : Preset) : Script BuildError := do
  if ← isPreset p.name then
    Script.sayMaybe (Notice.failureHint o.output)
    return .configureFailed
  else
    let available ← Script.presets
    Script.sayMaybe (Notice.unknownPresetHint available)
    return .unknownPreset p

/-- Why a build ends at a stage that did not end well. -/
def failure (o : Options) (p : Preset) : Stage → Script BuildError
  | .configure => o.diagnose p
  | .build => return .buildFailed
  | .clean => return .cleanFailed
  | .install => return .installFailed

/-- **The steps of a plan carried out**, up to the first that does not end well. -/
def carryOut (o : Options) (p : Preset) : List Step → Script (Except BuildError Unit)
  | [] => return .ok ()
  | s :: rest => do
    Script.say (.started s.stage)
    let report ← Script.run s.command o.output
    match report.answer with
    | .error fault => return .error (.notStarted s.stage fault)
    | .ok false => return .error (← o.failure p s.stage)
    | .ok true =>
      Script.say (.finished s.stage report.took)
      o.carryOut p rest

/-! ## The whole build -/

/-- Whether the options ask for rights that cannot be had. -/
def overreaches (o : Options) : Bool :=
  o.action == .build && o.install && !canElevate

/-- What comes after the listing. -/
def act (o : Options) : Script (Except BuildError Unit) := do
  if o.action = .none then return .ok ()
  else if o.overreaches then return .error .installUnsupported
  else
    match ← o.resolve with
    | .error e => return .error e
    | .ok p => o.carryOut p (o.plan p)

/-- The listing, where it is wanted. -/
def list (o : Options) : Script Unit := do
  if o.listing then
    Script.say .listing
    Script.printAll (← Script.presets)

/-- **The script of a build.** -/
def build (o : Options) : Script (Except BuildError Unit) := do
  o.list
  match ← o.act with
  | .error e => return .error e
  | .ok () =>
    Script.say .done
    return .ok ()

end Options

end PresetBuild
