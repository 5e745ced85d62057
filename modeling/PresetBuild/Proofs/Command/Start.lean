import PresetBuild.Proofs.Discovery.Capture
import PresetBuild.Proofs.Elevation

/-!
# What is started for a command

For a command one program is started or none. It is handed the texts of the command as they are, one
by one, behind the elevator where administrator rights are needed, and what is reported is how it
ended (`Machine.Does`). This holds of every command, on every machine and behind any programs
(`started_as_described`).

Running and capturing share the launch (`Machine.launch_eq_ok_iff`) and part in what they make of
it. A run reports how the program ended, and either inherits both streams or leads them nowhere. A
capture does not look at the ending. It pipes standard output and returns what it reads there, and
leads standard error nowhere, so nothing that the program writes comes through.
-/

namespace PresetBuild

namespace Machine

/-- **A command is done as described** by the texts to be handed over, in a session. -/
structure Does (m : Machine) (s : Session) (c : Command) (argv : List String) (output : Output) :
    Prop where
  /-- A NUL character in a text is invalid input, and nothing is started. -/
  refused : (∃ text ∈ argv, '\x00' ∈ text.toList) → ∃ fault, fault.kind = .invalidInput ∧
    (m.capture c s).1.text = .error fault ∧ (m.capture c s).2 = s ∧
    (m.run c output s).1.report.answer = .error fault ∧ (m.run c output s).2 = s
  /-- Running and capturing start the same: the program with these texts, or nothing. -/
  started : (m.capture c s).2 = (m.run c output s).2 ∧
    ((∃ ended, m.Starts s argv ended) ∧ (m.run c output s).2.calls = s.calls ++ [argv] ∨
      (¬∃ ended, m.Starts s argv ended) ∧ (m.run c output s).2 = s)
  /-- Of the machine nothing else is asked. -/
  alone : ∀ m' : Machine, m'.start s.calls argv = m.start s.calls argv →
    m'.capture c s = m.capture c s ∧ m'.run c output s = m.run c output s
  /-- A run is reported as successful exactly if the program ended with status zero. -/
  succeeded : (m.run c output s).1.report.answer = .ok true ↔
    ∃ ended, m.Starts s argv ended ∧ ended.status = .exited 0
  /-- A run is reported as failed exactly if the program ended in any other way. -/
  failed : (m.run c output s).1.report.answer = .ok false ↔
    ∃ ended, m.Starts s argv ended ∧
      ((∃ code, code ≠ 0 ∧ ended.status = .exited code) ∨ ∃ signal, ended.status = .killed signal)
  /-- A run is a fault exactly if no program was started. -/
  faulty : (∃ fault, (m.run c output s).1.report.answer = .error fault) ↔
    ¬∃ ended, m.Starts s argv ended
  /-- A silent run lets nothing through. -/
  silent : output = .silent →
    (m.run c output s).1.stdout = [] ∧ (m.run c output s).1.stderr = []
  /-- A run that is not silent lets everything through. -/
  inherited : output = .inherit → ∀ ended, m.Starts s argv ended →
    (m.run c output s).1.stdout = ended.stdout ∧ (m.run c output s).1.stderr = ended.stderr
  /-- A capture lets nothing through, whatever the program writes. -/
  unheard : (m.capture c s).1.stdout = [] ∧ (m.capture c s).1.stderr = []
  /-- A capture returns what the program wrote to standard output, if that is text. -/
  captured : ∀ text, (m.capture c s).1.text = .ok text ↔
    ∃ ended, m.Starts s argv ended ∧ ended.stdout = Text.Utf8.encode text.toList

end Machine

variable {m : Machine} {s : Session} {c : Command} {ended : Finished} {output : Output}

/-! ## What is reported -/

/-- A program that did not end with status zero ended with another, or was killed. -/
theorem Status.success_eq_false_iff (status : Status) : status.success = false ↔
    (∃ code, code ≠ 0 ∧ status = .exited code) ∨ ∃ signal, status = .killed signal := by
  cases status with
  | exited code => simp [Status.success]
  | killed signal => simp [Status.success]

/-- The report of a run of a program that was started. -/
theorem Machine.run_answer_eq_ok_iff {well : Bool} :
    (m.run c output s).1.report.answer = .ok well ↔
      ∃ ended, m.Starts s c.argv ended ∧ ended.status.success = well := by
  simp only [← launch_eq_ok_iff]
  show (outcomeOf output (m.launch s c)).report.answer = .ok well ↔ _
  cases m.launch s c with
  | error fault => exact ⟨nofun, nofun⟩
  | ok ended => simp [outcomeOf_ok_answer]

/-- What a capture returns is the text that the program wrote to standard output. -/
theorem Machine.capture_eq_ok_iff {text : String} : (m.capture c s).1.text = .ok text ↔
    ∃ ended, m.Starts s c.argv ended ∧ ended.stdout = Text.Utf8.encode text.toList := by
  simp only [← launch_eq_ok_iff, ← textOf_eq_ok_iff]
  show (capturedOf (m.launch s c)).text = .ok text ↔ _
  cases m.launch s c with
  | error fault => exact ⟨nofun, nofun⟩
  | ok ended => simp [capturedOf, Routing.capturing, Sink.collected]

/-- **A capture lets nothing through**: one stream is piped and the other leads nowhere. -/
theorem Machine.capture_unheard (m : Machine) (c : Command) (s : Session) :
    (m.capture c s).1.stdout = [] ∧ (m.capture c s).1.stderr = [] := by
  show (capturedOf (m.launch s c)).stdout = [] ∧ (capturedOf (m.launch s c)).stderr = []
  cases m.launch s c with
  | error fault => exact ⟨rfl, rfl⟩
  | ok ended => simp [capturedOf, Routing.capturing, Sink.passed]

/-- **Every command is done as described.** -/
theorem Machine.does (m : Machine) (s : Session) (c : Command) (output : Output) :
    m.Does s c c.argv output where
  refused h := by
    refine ⟨.nulCharacter, rfl, ?_⟩
    simp only [capture, run, m.launch_of_nul s h]
    exact ⟨rfl, rfl, rfl, rfl⟩
  started := by
    refine ⟨rfl, ?_⟩
    show _ ∧ (recorded s c (m.launch s c)).calls = _ ∨ _ ∧ recorded s c (m.launch s c) = s
    cases hlaunch : m.launch s c with
    | error fault => exact .inr ⟨launch_eq_error_iff.mp ⟨fault, hlaunch⟩, rfl⟩
    | ok ended => exact .inl ⟨⟨ended, launch_eq_ok_iff.mp hlaunch⟩, rfl⟩
  alone m' h := by
    simp only [capture, run, launch_congr h, and_self]
  succeeded := by
    simp only [run_answer_eq_ok_iff, success_eq_true_iff]
  failed := by
    simp only [run_answer_eq_ok_iff, Status.success_eq_false_iff]
  faulty := by
    rw [← launch_eq_error_iff]
    show (∃ fault, (outcomeOf output (m.launch s c)).report.answer = .error fault) ↔ _
    cases m.launch s c with
    | error fault => exact ⟨fun _ => ⟨fault, rfl⟩, fun _ => ⟨fault, rfl⟩⟩
    | ok ended => simp [outcomeOf_ok_answer]
  silent h := by
    subst h
    simp only [run]
    cases m.launch s c <;> exact ⟨rfl, rfl⟩
  inherited h ended hstarts := by
    subst h
    simp only [run, launch_eq_ok_iff.mpr hstarts]
    exact ⟨rfl, rfl⟩
  unheard := m.capture_unheard c s
  captured _ := capture_eq_ok_iff

/-! ## Projects -/

/-- **A command is done as described**: it starts the program with the arguments, one by one as they
are and behind `sudo` where administrator rights are needed, or it starts nothing. In a project it
starts the stand-in that the first of these texts leads to, which is handed the others. -/
theorem started_as_described (program : String) (arguments : List String) (elevated : Bool)
    (output : Output) (s : Session) :
    let c : Command := ⟨program, arguments, elevated⟩
    let first := if elevated then "sudo" else program
    let others := if elevated then program :: arguments else arguments
    let argv := (if elevated then ["sudo"] else []) ++ program :: arguments
    (∀ m : Machine, m.Does s c argv output) ∧
      ∀ (p : Project) (ended : Finished), p.machine.Starts s argv ended ↔
        (∀ text ∈ argv, '\x00' ∉ text.toList) ∧
          ∃ standIn, p.standIn first = .ok standIn ∧
            (∀ a ∈ others, a.utf8ByteSize < Project.argumentLimit) ∧
            p.respond s.calls standIn others = ended := by
  intro c first others argv
  have hargv : argv = c.argv := rfl
  have hfirst : argv = first :: others := by
    cases elevated <;> rfl
  refine ⟨fun m => hargv ▸ m.does s c output, fun p ended => ?_⟩
  rw [hfirst, p.starts_iff]

/-- Arguments with a space, with a quotation mark, with nothing at all and with a dash are handed
over one by one. The program is killed, which is a failure and no fault, and a silent run lets
nothing of it through. The build tool writes to standard error when it lists presets, and a capture
of that lets nothing through either. Where the elevator is missing, a NUL character is still what is
wrong. -/
theorem started_as_described_awkward :
    let arguments := ["--x y", "a\"b", "", "-"]
    let p := { Project.obliging with elevator := .missing, statuses := fun _ => .killed 9 }
    let silent := p.machine.run ⟨"cmake", arguments, false⟩ .silent {}
    silent.1.report.answer = .ok false ∧ silent.1.stdout = [] ∧ silent.1.stderr = [] ∧
      silent.2.calls = ["cmake" :: arguments] ∧
      (p.respond [] .tool ["--list-presets"]).stderr ≠ [] ∧
      (p.machine.capture ⟨"cmake", ["--list-presets"], false⟩ {}).1.stderr = [] ∧
      ∃ fault, fault.kind = .invalidInput ∧
        (p.machine.capture ⟨"cm\x00ake", arguments, true⟩ {}).1.text = .error fault := by
  intro arguments p silent
  obtain ⟨does, starts⟩ := started_as_described "cmake" arguments false .silent {}
  obtain ⟨lists, -⟩ := started_as_described "cmake" ["--list-presets"] false .silent {}
  obtain ⟨nulDoes, -⟩ := started_as_described "cm\x00ake" arguments true .silent {}
  have hstarts := (starts p (p.respond [] .tool arguments)).mpr
    ⟨by decide, .tool, p.standIn_buildTool, by decide, rfl⟩
  have hkilled : (p.respond [] .tool arguments).status = .killed 9 := rfl
  obtain ⟨fault, hkind, hfault, -⟩ := (nulDoes p.machine).refused ⟨"cm\x00ake", by decide⟩
  have hcalls := (does p.machine).started.2.resolve_right fun h => h.1 ⟨_, hstarts⟩
  have hsilent := (does p.machine).silent rfl
  exact ⟨(does p.machine).failed.mpr ⟨_, hstarts, .inr ⟨9, hkilled⟩⟩, hsilent.1, hsilent.2,
    hcalls.2, by decide +kernel, (lists p.machine).unheard.2, fault, hkind, hfault⟩

end PresetBuild
