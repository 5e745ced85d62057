import PresetBuild.Proofs.Build.Messages
import PresetBuild.Proofs.Launch
import PresetBuild.Proofs.Likeness

/-!
# Programs that take their time

The stand-ins of a project take no time. A clock (`Clock`) says how long each program takes instead,
and `Project.callIn` is what can be seen of a command line then, with the times struck out of what
is said. Whatever the clock, that is what is seen in the project itself (`Project.callIn_eq_call`):
nothing but those times hangs on how long a program takes.

That has two halves. The machine with a clock is alike to the one without, so the two runs of a
build are alike. And in the run without a clock nothing is to be struck out: a time is only said of
a stage that has ended, and it is the time that its command took (`Trace.brackets`).
-/

namespace PresetBuild

/-- **A clock**: how long a program takes that is started after others. -/
abbrev Clock := List (List String) → List String → Elapsed

namespace Project

/-- **The machine of a project where programs take their time.** -/
def machineIn (p : Project) (clock : Clock) : Machine where
  start earlier argv :=
    (p.machine.start earlier argv).map fun ended => { ended with took := clock earlier argv }

/-- **A build where programs take their time**, seen from outside with the times struck out. -/
def buildEndingIn (p : Project) (clock : Clock) (color : Bool) (ignored : List String)
    (o : Options) : Ending :=
  if o.source = .file ∧ p.directoryGone = true then strandedEnding color ignored
  else
    let run := ((p.machineIn clock).world o.source p.files).perform o.build {}
    let events := (warnings ignored ++ run.events ++ verdict run.answer).map Event.untimed
    { exit := exitStatus run.answer
      stdout := stdoutOf events
      stderr := stderrOf color events
      calls := run.state.calls }

/-- **A command line where programs take their time**, seen from outside with the times struck out.
-/
def callIn (p : Project) (scripts : Scripts) (clock : Clock) (color : Bool)
    (arguments : List String) : Ending :=
  match Request.ofArguments arguments with
  | .build ignored o => p.buildEndingIn clock color ignored o
  | request => request.answer scripts p color

end Project

/-! ## Times struck out -/

/-- Nothing is timed in a warning. -/
theorem untimed_warnings (ignored : List String) :
    (warnings ignored).map Event.untimed = warnings ignored := by
  unfold warnings
  rw [List.map_map]
  rfl

/-- Nothing is timed in a verdict. -/
theorem untimed_verdict (answer : Except BuildError Unit) :
    (verdict answer).map Event.untimed = verdict answer := by
  cases answer <;> rfl

/-- Times are said on standard error alone. -/
theorem stdoutOf_untimed (events : List Event) :
    stdoutOf (events.map Event.untimed) = stdoutOf events := by
  induction events with
  | nil => rfl
  | cons e events ih =>
    have hhead : e.untimed.stdout = e.stdout := by cases e <;> rfl
    exact congrArg₂ (· ++ ·) hhead ih

namespace Project

variable (p : Project) (clock : Clock)

/-! ## The run without a clock -/

/-- A stand-in takes no time. -/
theorem respond_took (earlier : List (List String)) (s : StandIn) (arguments : List String) :
    (p.respond earlier s arguments).took = ⟨0⟩ := by
  unfold respond
  simp only
  split <;> rfl

/-- A program that was started is a stand-in that did what it does. -/
theorem responded_of_launch {s : Session} {c : Command} {ended : Finished}
    (h : p.machine.launch s c = .ok ended) :
    ∃ standIn arguments, ended = p.respond s.calls standIn arguments := by
  have hstart := (Machine.launch_eq_ok_iff.mp h).2
  cases hargv : c.argv with
  | nil =>
    rw [hargv] at hstart
    cases hstart
  | cons program arguments =>
    rw [hargv] at hstart
    obtain ⟨standIn, -, -, rfl⟩ := p.start_eq_ok_iff.mp hstart
    exact ⟨standIn, arguments, rfl⟩

/-- No command of a project takes any time. -/
theorem took_of_launch (s : Session) (c : Command) (output : Output) :
    (Machine.outcomeOf output (p.machine.launch s c)).report.took = ⟨0⟩ := by
  cases h : p.machine.launch s c with
  | error fault => rfl
  | ok ended =>
    obtain ⟨standIn, arguments, rfl⟩ := p.responded_of_launch h
    cases output <;> exact p.respond_took s.calls standIn arguments

/-- **A build in a project says no time but none**, so nothing is to be struck out. -/
theorem untimed_events (o : Options) :
    let run := (p.world o.source).perform o.build {}
    run.events.map Event.untimed = run.events := by
  intro run
  have hbrackets := (build_trace (p.world o.source) o {}).brackets
  refine (List.map_congr_left fun e he => ?_).trans (List.map_id _)
  cases e with
  | queried => rfl
  | started => rfl
  | printed => rfl
  | told n =>
    cases n with
    | finished stage took =>
      obtain ⟨before, after, split⟩ := List.append_of_mem he
      obtain ⟨c, output, outcome, earlier, -, -, htook, rfl⟩ :=
        hbrackets.reported before stage took after split
      have hstarted : .started c output outcome ∈ run.events := by
        rw [split]
        exact List.mem_append_left _ (List.mem_append_right _
          (List.mem_cons_of_mem _ List.mem_cons_self))
      obtain ⟨s, rfl⟩ := World.answers_of_mem_perform _ _ hstarted
      rw [htook.trans (p.took_of_launch s c output)]
      rfl
    | _ => rfl

/-! ## The run with a clock -/

/-- A clock does not change how a program comes out, but for the time. -/
theorem launch_machineIn (s : Session) (c : Command) :
    (p.machineIn clock).launch s c =
      (p.machine.launch s c).map fun ended => { ended with took := clock s.calls c.argv } := by
  unfold Machine.launch
  split <;> rfl

/-- **A clock leaves the world of a project alike.** -/
theorem machineIn_alike (source : DiscoveryKind) :
    ((p.machineIn clock).world source p.files).Alike (p.world source) Eq where
  query {s t} states := by
    subst states
    cases source with
    | file => exact ⟨⟨rfl, rfl, rfl⟩, rfl⟩
    | listing =>
      simp only [Machine.world, Project.world, Machine.discover, Machine.capture, launch_machineIn]
      cases p.machine.launch s .listPresets with
      | error fault => exact ⟨⟨rfl, rfl, rfl⟩, rfl⟩
      | ok ended => exact ⟨⟨rfl, rfl, rfl⟩, rfl⟩
  start {s t} c output states := by
    subst states
    show (Machine.outcomeOf output ((p.machineIn clock).launch s c)).Alike
        (Machine.outcomeOf output (p.machine.launch s c)) ∧
      Machine.recorded s c ((p.machineIn clock).launch s c) =
        Machine.recorded s c (p.machine.launch s c)
    rw [launch_machineIn]
    cases p.machine.launch s c with
    | error fault => exact ⟨⟨rfl, rfl, rfl⟩, rfl⟩
    | ok ended => cases output <;> exact ⟨⟨rfl, rfl, rfl⟩, rfl⟩

/-- **A build is seen to go as it goes without a clock.** -/
theorem buildEndingIn_eq (color : Bool) (ignored : List String) (o : Options) :
    p.buildEndingIn clock color ignored o = p.buildEnding color ignored o := by
  by_cases begins : o.source = .file ∧ p.directoryGone = true
  · rw [buildEndingIn, if_pos begins, buildEnding, if_pos begins]
  · obtain ⟨hevents, hanswer, hstate⟩ :=
      (p.machineIn_alike clock o.source).performance (build_timeless o) (s := {}) rfl
    have hout := stdoutOf_eq_of_alike hevents
    have herr := stderrOf_eq_of_alike color hevents
    rw [p.untimed_events o] at herr
    rw [buildEndingIn, if_neg begins, buildEnding, if_neg begins]
    simp only [account, List.map_append, untimed_warnings, untimed_verdict, stdoutOf_append,
      stderrOf_append, stdoutOf_untimed, hout, herr, hanswer, hstate]

/-- **A command line is seen to go as it goes without a clock**: times apart, nothing hangs on how
long the programs take. -/
theorem callIn_eq_call (scripts : Scripts) (color : Bool) (arguments : List String) :
    p.callIn scripts clock color arguments = p.call scripts color arguments := by
  unfold callIn call
  cases Request.ofArguments arguments with
  | build ignored o => exact p.buildEndingIn_eq clock color ignored o
  | help name => rfl
  | version => rfl
  | refuse name e => rfl
  | complete shell => rfl

end Project

end PresetBuild
