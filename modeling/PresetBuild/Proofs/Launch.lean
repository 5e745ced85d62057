import PresetBuild.Project

/-!
# The launch of a program

Running a command and capturing its output begin with the same launch. Either a text of the command
has a NUL character, and the machine is not even asked, or the machine is asked once, with these
texts. So a launch comes to a program exactly if the machine starts it and nothing is wrong with the
texts (`Machine.launch_eq_ok_iff`).

What a machine does with the texts is its own affair. In a project it starts the stand-in that the
first text leads to and hands it the others (`Project.starts_iff`).
-/

namespace PresetBuild

variable {m : Machine} {s : Session} {c : Command} {ended : Finished}

/-- **A program starts** behind those of a session, and ends so: none of the texts to hand it has a
NUL character, and the machine starts it. -/
def Machine.Starts (m : Machine) (s : Session) (argv : List String) (ended : Finished) : Prop :=
  (∀ text ∈ argv, '\x00' ∉ text.toList) ∧ m.start s.calls argv = .ok ended

theorem Command.hasNul_eq_true_iff :
    c.hasNul = true ↔ ∃ text ∈ c.argv, '\x00' ∈ text.toList := by
  simp [Command.hasNul, List.any_eq_true]

/-- A command with a NUL character is refused on every machine. -/
theorem Machine.launch_of_nul (m : Machine) (s : Session)
    (h : ∃ text ∈ c.argv, '\x00' ∈ text.toList) : m.launch s c = .error .nulCharacter := by
  rw [launch, if_pos (Command.hasNul_eq_true_iff.mpr h)]

/-- **A launch starts the program of the command**, with the texts of the command, or fails. -/
theorem Machine.launch_eq_ok_iff : m.launch s c = .ok ended ↔ m.Starts s c.argv ended := by
  unfold Starts
  by_cases h : ∃ text ∈ c.argv, '\x00' ∈ text.toList
  · rw [m.launch_of_nul s h]
    obtain ⟨text, hmem, hnul⟩ := h
    exact ⟨nofun, fun hstarts => absurd hnul (hstarts.1 text hmem)⟩
  · have hclean : ∀ text ∈ c.argv, '\x00' ∉ text.toList :=
      fun text hmem hnul => h ⟨text, hmem, hnul⟩
    rw [launch, if_neg fun hnul => h (Command.hasNul_eq_true_iff.mp hnul)]
    exact ⟨fun hstart => ⟨hclean, hstart⟩, And.right⟩

/-- A launch fails exactly if nothing starts. -/
theorem Machine.launch_eq_error_iff :
    (∃ fault, m.launch s c = .error fault) ↔ ¬∃ ended, m.Starts s c.argv ended := by
  simp only [← launch_eq_ok_iff]
  cases m.launch s c with
  | error fault => simp
  | ok ended => simp

/-- A launch asks one thing of a machine. -/
theorem Machine.launch_congr {m' : Machine} (h : m'.start s.calls c.argv = m.start s.calls c.argv) :
    m'.launch s c = m.launch s c := by
  rw [launch, launch, h]

/-! ## Projects -/

namespace Project

variable (p : Project) {program : String} {arguments : List String}

/-- A project's machine starts what the program leads to, if no argument is too long. -/
theorem start_eq_ok_iff {earlier : List (List String)} :
    p.machine.start earlier (program :: arguments) = .ok ended ↔
      ∃ standIn, p.standIn program = .ok standIn ∧
        (∀ a ∈ arguments, a.utf8ByteSize < argumentLimit) ∧
        p.respond earlier standIn arguments = ended := by
  have htaken : (arguments.any fun a => decide (argumentLimit ≤ a.utf8ByteSize)) = false ↔
      ∀ a ∈ arguments, a.utf8ByteSize < argumentLimit := by
    simp [List.any_eq_false]
  rw [← htaken]
  simp only [machine]
  cases p.standIn program with
  | error fault => simp
  | ok standIn =>
    cases arguments.any fun a => decide (argumentLimit ≤ a.utf8ByteSize) with
    | true => simp
    | false => simp

/-- **What starts in a project** is the stand-in that the program leads to. It is handed the
arguments as they are, if none is too long. -/
theorem starts_iff : p.machine.Starts s (program :: arguments) ended ↔
    (∀ text ∈ program :: arguments, '\x00' ∉ text.toList) ∧
      ∃ standIn, p.standIn program = .ok standIn ∧
        (∀ a ∈ arguments, a.utf8ByteSize < argumentLimit) ∧
        p.respond s.calls standIn arguments = ended := by
  unfold Machine.Starts
  rw [p.start_eq_ok_iff]

end Project

end PresetBuild
