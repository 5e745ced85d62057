import PresetBuild.Listing
import PresetBuild.PresetFile
import PresetBuild.World

/-!
# Rehearsals

A rehearsal is a world whose answers are fixed beforehand, by number: the first question about
presets has one answer, the second another, and so with the commands run. Nothing is assumed about
how the answers hang together, so every course that a build can take is the course of some
rehearsal.
-/

namespace PresetBuild

/-- **Where the answers about presets come from.** -/
inductive Discovery where
  /-- The build tool is asked each time, and its listings are these. -/
  | listing (captures : Nat → Except Fault String)
  /-- The preset files are read each time. -/
  | files (stored : PresetFiles)
  /-- The answers are these. -/
  | fixed (answers : Nat → List Preset)

/-- What the question of a number finds. -/
def Discovery.find : Discovery → Nat → Discovered
  | .listing captures, n =>
    { asked := some .listPresets, presets := Listing.ofCapture (captures n) }
  | .files stored, _ => { asked := none, presets := stored.presets }
  | .fixed answers, n => { asked := none, presets := answers n }

/-- A question of a rehearsal lets nothing through. -/
theorem Discovery.find_silent (d : Discovery) (n : Nat) :
    (d.find n).stdout = [] ∧ (d.find n).stderr = [] := by
  cases d <;> exact ⟨rfl, rfl⟩

/-- **How far a rehearsal has come**: the questions asked and the commands run. -/
structure Progress where
  queries : Nat := 0
  starts : Nat := 0

/-- **A rehearsal**, with its answers about presets and its reports of commands. -/
def rehearsal (d : Discovery) (reports : Nat → Report) : World Progress where
  query s := (d.find s.queries, { s with queries := s.queries + 1 })
  start _ _ s := (⟨reports s.starts, [], []⟩, { s with starts := s.starts + 1 })

end PresetBuild
