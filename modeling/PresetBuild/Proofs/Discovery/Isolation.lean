import PresetBuild.Proofs.Build.Questions
import PresetBuild.Proofs.Elevation
import PresetBuild.Proofs.Timing

/-!
# What a build cannot see

Presets are discovered in one place, and the other place does not matter. Where they come from what
the build tool lists, the preset files may hold anything or be missing. Where they come from the
preset files, the build tool is never asked to list presets, and whatever it would answer is the
same. Nothing that can be seen of the command line changes, however long programs take
(`discovery_isolated`).

The two projects compared have different machines, and the machines do differ: a file can be started
by a path that leads to it, and a program is asked whatever it is asked. They agree on the commands
of a build alone (`Planned`), which start the build tool and the elevator by name and never ask for
a listing; by `World.Agree.perform` that is all that matters. The number of programs started before
hangs on the files as well, by the names that calls are kept under, so the agreement is restricted
to sessions whose programs were started by name (`ByName`).
-/

namespace PresetBuild

open Arguments (Given)

variable {σ : Type} {o : Options} {c : Command} {s : Session}

/-! ## The commands of a build -/

/-- **A command that a build may run**: it is that of a step in the plan for some preset. -/
def Planned (o : Options) (c : Command) : Prop :=
  ∃ p, ∃ step ∈ o.plan p, step.command = c

/-- **Started by name**: the program is given by the name of a stand-in, and not by a path. -/
def ByName (argv : List String) : Prop :=
  ∃ (s : StandIn) (arguments : List String), argv = s.name :: arguments

/-- A build runs nothing but what it may. -/
theorem planned_of_mem_calls (w : World σ) (o : Options) (s : σ) :
    ∀ call ∈ calls (w.perform o.build s).events, Planned o call.command := by
  intro call hcall
  have hagenda := (build_trace w o s).keepsAgenda
  have hmem := hagenda.throughAhead.inOrder.subset (List.mem_map_of_mem hcall)
  obtain ⟨step, hstep, hcommand⟩ := List.mem_map.mp hmem
  unfold Options.ahead at hstep
  cases hsettled : o.settled (w.perform o.build s).events with
  | none =>
    rw [hsettled] at hstep
    cases hstep
  | some p =>
    rw [hsettled, Option.elim_some, ← plan_eq_agenda] at hstep
    exact ⟨p, step, hstep, hcommand⟩

/-- What a build runs is started by name. -/
theorem Planned.byName (h : Planned o c) : ByName c.argv := by
  obtain ⟨p, step, hstep, rfl⟩ := h
  rcases mem_plan hstep with rfl | rfl | rfl | rfl
  · exact ⟨.tool, _, rfl⟩
  · exact ⟨.tool, _, rfl⟩
  · exact ⟨.tool, _, rfl⟩
  · exact ⟨.elevator, _, rfl⟩

theorem buildDirectory_ne_listing (p : Preset) : p.buildDirectory ≠ "--list-presets" := by
  rw [buildDirectory_eq]
  intro heq
  have hchars := congrArg String.toList heq
  rw [String.toList_append] at hchars
  exact absurd (List.cons.inj hchars).1 (by decide)

/-- What a build runs does not ask for a listing. -/
theorem Planned.listing_not_mem (h : Planned o c) : "--list-presets" ∉ c.argv := by
  obtain ⟨p, step, hstep, rfl⟩ := h
  have hpreset := presetArgument_ne p.name (s := "--list-presets") (by decide)
  have hdirectory := buildDirectory_ne_listing p
  rcases mem_plan hstep with rfl | rfl | rfl | rfl
  · show "--list-presets" ∉ ["cmake", "--build", p.buildDirectory, "--target", "clean"]
    simp [hdirectory.symm]
  · show "--list-presets" ∉ ["cmake", "--preset=" ++ p.name]
    simp [hpreset.symm]
  · show "--list-presets" ∉
      "cmake" :: (["--build", p.buildDirectory] ++ if o.parallel then ["--parallel"] else [])
    cases o.parallel <;> simp [hdirectory.symm]
  · show "--list-presets" ∉ ["sudo", "cmake", "--install", p.buildDirectory]
    simp [hdirectory.symm]

/-- What holds of all the programs started before holds of all that are recorded behind one more, if
it holds of that. -/
theorem Machine.forall_recorded {P : List String → Prop} (earlier : ∀ argv ∈ s.calls, P argv)
    (one : P c.argv) (launched : Except Fault Finished) :
    ∀ argv ∈ (recorded s c launched).calls, P argv := by
  cases launched with
  | error fault => exact earlier
  | ok ended => exact List.forall_mem_append.mpr ⟨earlier, List.forall_mem_singleton.mpr one⟩

namespace Project

variable (p : Project) {earlier : List (List String)} {argv : List String}

/-! ## Other preset files -/

/-- **The project with other preset files.** -/
def withFiles (files : PresetFiles) : Project :=
  { p with files := files }

variable (files : PresetFiles)

/-- A program started by name is not looked for among the preset files. -/
theorem kept_withFiles (h : ByName argv) : (p.withFiles files).kept argv = p.kept argv := by
  obtain ⟨s, arguments, rfl⟩ := h
  rw [kept, kept, standIn_name, standIn_name]
  rfl

theorem others_withFiles (h : ∀ argv ∈ earlier, ByName argv) :
    (p.withFiles files).others earlier = p.others earlier := by
  refine congrArg List.length (List.filter_congr fun argv hargv => ?_)
  rw [p.kept_withFiles files (h argv hargv)]

/-- **A stand-in does not look at the preset files.** -/
theorem respond_withFiles (h : ∀ argv ∈ earlier, ByName argv) (s : StandIn)
    (arguments : List String) :
    (p.withFiles files).respond earlier s arguments = p.respond earlier s arguments := by
  unfold respond
  rw [p.others_withFiles files h]
  rfl

theorem launch_withFiles (name : ByName c.argv) (h : ∀ argv ∈ s.calls, ByName argv) :
    (p.withFiles files).machine.launch s c = p.machine.launch s c := by
  have hstart : (p.withFiles files).machine.start s.calls c.argv =
      p.machine.start s.calls c.argv := by
    obtain ⟨s', arguments, hargv⟩ := name
    unfold machine
    simp only [hargv, standIn_name, p.respond_withFiles files h]
    rfl
  exact Machine.launch_congr hstart

/-- **Projects with different preset files agree on what a build runs**, where presets are
listed. -/
theorem withFiles_agree (o : Options) :
    ((p.withFiles files).world .listing).Agree (p.world .listing) (Planned o)
      fun s => ∀ argv ∈ s.calls, ByName argv where
  query {s} state := by
    have hname : ByName Command.listPresets.argv := ⟨.tool, _, rfl⟩
    have hlaunch := p.launch_withFiles files hname state
    refine ⟨?_, Machine.forall_recorded state hname _⟩
    simp only [Project.world, Machine.world, Machine.discover, Machine.capture, hlaunch]
  start {s c} output planned state := by
    have hlaunch := p.launch_withFiles files planned.byName state
    refine ⟨?_, Machine.forall_recorded state planned.byName _⟩
    show (Machine.outcomeOf output _, Machine.recorded s c _) =
      (Machine.outcomeOf output _, Machine.recorded s c _)
    rw [hlaunch]

/-! ## Other listings -/

/-- **The project where the build tool lists otherwise.** -/
def withListing (listing : List UInt8) (status : Status) : Project :=
  { p with listing := listing, listingStatus := status }

variable (listing : List UInt8) (status : Status)

theorem isListing_eq_false {program : String} {arguments : List String}
    (h : "--list-presets" ∉ arguments) : isListing (program :: arguments) = false := by
  cases arguments with
  | nil => rfl
  | cons a rest =>
    have hne : (a == "--list-presets") = false :=
      beq_eq_false_iff_ne.mpr fun heq => h (heq ▸ List.mem_cons_self)
    show (program == buildTool && a == "--list-presets") = false
    rw [hne, Bool.and_false]

/-- **How the build tool lists matters to listings alone.** -/
theorem respond_withListing (earlier : List (List String)) (s : StandIn) {arguments : List String}
    (h : "--list-presets" ∉ arguments) :
    (p.withListing listing status).respond earlier s arguments = p.respond earlier s arguments := by
  unfold respond
  simp only [isListing_eq_false h]
  rfl

theorem launch_withListing (s : Session) (h : "--list-presets" ∉ c.argv) :
    (p.withListing listing status).machine.launch s c = p.machine.launch s c := by
  have hstart : (p.withListing listing status).machine.start s.calls c.argv =
      p.machine.start s.calls c.argv := by
    unfold machine
    generalize c.argv = argv at h
    cases argv with
    | nil => rfl
    | cons program arguments =>
      have harguments := mt (List.mem_cons_of_mem program) h
      simp only [p.respond_withListing listing status s.calls _ harguments]
      rfl
  exact Machine.launch_congr hstart

/-- **Projects with different listings agree on what a build runs**, where preset files are read. -/
theorem withListing_agree (o : Options) :
    ((p.withListing listing status).world .file).Agree (p.world .file) (Planned o)
      fun s => ∀ argv ∈ s.calls, "--list-presets" ∉ argv where
  query state := ⟨rfl, state⟩
  start {s c} output planned state := by
    have hlaunch := p.launch_withListing listing status s planned.listing_not_mem
    refine ⟨?_, Machine.forall_recorded state planned.listing_not_mem _⟩
    show (Machine.outcomeOf output _, Machine.recorded s c _) =
      (Machine.outcomeOf output _, Machine.recorded s c _)
    rw [hlaunch]

/-! ## Command lines -/

variable {p q : Project} {arguments : List String} {g : Given}

/-- The source of presets is the preset files exactly if the switch for them is set. -/
theorem source_optionsOf (g : Given) :
    (optionsOf g).source = if .fromJson ∈ g.switches then .file else .listing := by
  show (if g.switches.contains .fromJson then _ else _) = _
  simp only [List.contains_iff_mem]

/-- Where the build goes the same, the same is seen of the command line that asks for it. -/
theorem call_eq_of_perform (accepted : Accepts arguments g) (scripts : Scripts) (color : Bool)
    (stands : q.directoryGone = p.directoryGone)
    (same : (q.world (optionsOf g).source).perform (optionsOf g).build {} =
      (p.world (optionsOf g).source).perform (optionsOf g).build {}) :
    q.call scripts color arguments = p.call scripts color arguments := by
  rw [call, call, ofArguments_of_accepts accepted]
  show q.buildEnding color _ _ = p.buildEnding color _ _
  rw [buildEnding, buildEnding, account, account, stands, same]

/-- What is started by a command line that is accepted is what its build leaves in a session, or
nothing. -/
theorem calls_of_accepts (accepted : Accepts arguments g) (p : Project) (scripts : Scripts)
    (color : Bool) :
    (p.call scripts color arguments).calls = [] ∨ (p.call scripts color arguments).calls =
      ((p.world (optionsOf g).source).perform (optionsOf g).build {}).state.calls := by
  rcases p.call_calls scripts color arguments with hnone | ⟨ignored, o, hrequest, hcalls⟩
  · exact .inl hnone
  · rw [ofArguments_of_accepts accepted] at hrequest
    obtain ⟨rfl, rfl⟩ := Request.build.inj hrequest
    exact .inr hcalls

end Project

/-- **Discovery is isolated.** Take a command line that is accepted as a build. Without the switch
for the preset files, whatever they hold and whether they are there changes nothing that can be
seen. With the switch, the build tool is never asked to list presets, and what it would list and how
it would end then changes nothing that can be seen. However long the programs take in either
project, what is seen is compared with the times struck out. -/
theorem discovery_isolated {arguments : List String} {g : Given} (accepted : Accepts arguments g)
    (p : Project) (scripts : Scripts) (color : Bool) :
    (.fromJson ∉ g.switches → ∀ (files : PresetFiles) (clock clock' : Clock),
      (p.withFiles files).callIn scripts clock' color arguments =
        p.callIn scripts clock color arguments) ∧
    (.fromJson ∈ g.switches →
      (∀ (clock : Clock), ∀ argv ∈ (p.callIn scripts clock color arguments).calls,
        "--list-presets" ∉ argv) ∧
      ∀ (listing : List UInt8) (status : Status) (clock clock' : Clock),
        (p.withListing listing status).callIn scripts clock' color arguments =
          p.callIn scripts clock color arguments) := by
  constructor
  · intro unset files clock clock'
    have hsource := (Project.source_optionsOf g).trans (if_neg unset)
    obtain ⟨hrun, -⟩ := (p.withFiles_agree files (optionsOf g)).perform (optionsOf g).build
      (s := {}) (List.forall_mem_nil _) (planned_of_mem_calls _ _ _)
    rw [Project.callIn_eq_call, Project.callIn_eq_call]
    exact Project.call_eq_of_perform accepted scripts color rfl (hsource ▸ hrun)
  · intro set
    have hsource := (Project.source_optionsOf g).trans (if_pos set)
    have hagree (listing : List UInt8) (status : Status) :=
      (p.withListing_agree listing status (optionsOf g)).perform (optionsOf g).build
        (s := {}) (List.forall_mem_nil _) (planned_of_mem_calls _ _ _)
    refine ⟨fun clock => ?_, fun listing status clock clock' => ?_⟩
    · rw [Project.callIn_eq_call]
      rcases Project.calls_of_accepts accepted p scripts color with hnone | hcalls
      · rw [hnone]
        exact List.forall_mem_nil _
      · obtain ⟨hrun, hlast⟩ := hagree p.listing p.listingStatus
        rw [hcalls, hsource, ← hrun]
        exact hlast
    · obtain ⟨hrun, -⟩ := hagree listing status
      rw [Project.callIn_eq_call, Project.callIn_eq_call]
      exact Project.call_eq_of_perform accepted scripts color rfl (hsource ▸ hrun)

/-- A preset file beside one that is a directory, passed over by a build that lists presets and read
by one that does not. The latter heeds no listing, not even one that is broken off. -/
theorem discovery_isolated_obliging :
    let files : PresetFiles := ⟨.holding (Text.Utf8.encode "[[[\"x\"]]]".toList), .unreadable⟩
    let p := Project.obliging.withFiles files
    let listing := Text.Utf8.encode "Available configure presets:\n\n  \"y\"\n".toList
    let listed := ["pbuild", "list", "build"]
    let read := ["pbuild", "--From-Json"]
    Accepts listed ⟨["list", "build"], [], none⟩ ∧ Accepts read ⟨[], [.fromJson], none⟩ ∧
      (∀ clock clock' : Clock,
        p.callIn .blank clock' false listed = Project.obliging.callIn .blank clock false listed) ∧
      (∀ clock : Clock, (p.callIn .blank clock false read).calls =
        [["cmake", "--preset=x"], ["cmake", "--build", "builds/x", "--parallel"]]) ∧
      (∀ clock : Clock, ∀ argv ∈ (p.callIn .blank clock false read).calls,
        "--list-presets" ∉ argv) ∧
      ∀ clock clock' : Clock,
        (p.withListing listing (.killed 9)).callIn .blank clock' false read =
          p.callIn .blank clock false read := by
  intro files p listing listed read
  have hlisted : Accepts listed ⟨["list", "build"], [], none⟩ := ⟨by decide +kernel, rfl⟩
  have hread : Accepts read ⟨[], [.fromJson], none⟩ := ⟨by decide +kernel, rfl⟩
  obtain ⟨hfiles, -⟩ := discovery_isolated hlisted Project.obliging .blank false
  obtain ⟨-, hlisting⟩ := discovery_isolated hread p .blank false
  obtain ⟨hnever, hsame⟩ := hlisting (by decide)
  refine ⟨hlisted, hread, hfiles (by decide) files, fun clock => ?_, hnever,
    hsame listing (.killed 9)⟩
  rw [Project.callIn_eq_call]
  decide +kernel

end PresetBuild
