import PresetBuild.Script
import PresetBuild.Text.Utf8

/-!
# Worlds

A world answers what a script asks: it has a state, and each question may change it. Running a
script in a world (`World.perform`) gives the script's answer, the world's last state, and the
events in order, which are a full account of the run: everything asked and answered, said and
printed.

What reaches standard output and standard error is read off the events. A script's own words are
text. The programs that were started may let any bytes through, which stand among those words where
the question or the command stands among the events that the program was started for.
-/

namespace PresetBuild

/-- **What a question about presets finds**, the command that was run to find it, if one was, and
the bytes that the command let through to the standard streams. -/
structure Discovered where
  asked : Option Command
  presets : List Preset
  stdout : List UInt8 := []
  stderr : List UInt8 := []

/-- **What a command's run comes to**: the report of it, and the bytes it let through to the
standard streams. -/
structure Outcome where
  report : Report
  stdout : List UInt8 := []
  stderr : List UInt8 := []

/-- **A world** with states of type `σ`. -/
structure World (σ : Type) where
  query : σ → Discovered × σ
  start : Command → Output → σ → Outcome × σ

/-- **What happens in a run.** -/
inductive Event where
  | queried (found : Discovered)
  | started (command : Command) (output : Output) (outcome : Outcome)
  | told (notice : Notice)
  | printed (preset : Preset)

namespace Event

/-- What the script itself writes to standard output at an event. -/
def out : Event → String
  | .printed p => p.name ++ "\n"
  | _ => ""

/-- What the script itself writes to standard error at an event. -/
def err (color : Bool) : Event → String
  | .told n => n.line color
  | _ => ""

/-- All that reaches standard output at an event. -/
def stdout : Event → List UInt8
  | .queried found => found.stdout
  | .started _ _ outcome => outcome.stdout
  | e => Text.Utf8.encode e.out.toList

/-- All that reaches standard error at an event. -/
def stderr (color : Bool) : Event → List UInt8
  | .queried found => found.stderr
  | .started _ _ outcome => outcome.stderr
  | e => Text.Utf8.encode (e.err color).toList

end Event

/-- **A run that is over.** -/
structure Performance (σ α : Type) where
  events : List Event
  answer : α
  state : σ

/-- A run with one more event before it. -/
def Performance.after {σ α : Type} (e : Event) (p : Performance σ α) : Performance σ α :=
  { p with events := e :: p.events }

/-- **A script run in a world**, from a state. -/
def World.perform {σ α : Type} (w : World σ) : Script α → σ → Performance σ α
  | .done a, s => ⟨[], a, s⟩
  | .query next, s =>
    let found := w.query s
    (w.perform (next found.1.presets) found.2).after (.queried found.1)
  | .start c o next, s =>
    let outcome := w.start c o s
    (w.perform (next outcome.1.report) outcome.2).after (.started c o outcome.1)
  | .tell n next, s => (w.perform next s).after (.told n)
  | .print p next, s => (w.perform next s).after (.printed p)

end PresetBuild
