/-!
# Presets

A preset is known by its name alone, and any text is a name. Whether the build tool knows a preset
of that name is for the tool to say.
-/

namespace PresetBuild

/-- **A configure preset**, by name. -/
structure Preset where
  name : String
  deriving DecidableEq, Repr

instance : ToString Preset := ⟨Preset.name⟩

end PresetBuild
