import PresetBuild.Proofs.Build.Trace

/-!
# A build keeps to its agenda

The agenda of a build (`Options.agenda`) is written out here in full: every stage with the program
and the arguments that it stands for. The main statement, `build_keeps_agenda`, compares it with
what is run, in any world, whatever the questions about presets find and whatever comes of the
commands.

- The calls are made for the first steps of the agenda, in order, each with the output wanted. All
  of them but the last are answered well, and they stop short of the whole agenda only behind a call
  that was not (`GoesThrough`).
- The answer of the build tells which of the ways it went: done, without a preset, or at an end with
  the last call, whose stage and whose fault are those of the error.

What carries the proof is the course of a plan (`Course`): either all its steps are called and
answered well, or some first steps are, and the one behind them is called and to blame. A passage
takes such a course by induction on the passage.
-/

namespace PresetBuild

variable {σ : Type}

/-! ## What is to be run -/

/-- **The agenda that options set for a preset**, stage by stage. -/
def Options.agenda (o : Options) (p : Preset) : List Step :=
  match o.action with
  | .none => []
  | .clear => [⟨.clean, "cmake", ["--build", "builds/" ++ p.name, "--target", "clean"], false⟩]
  | .build =>
    [⟨.configure, "cmake", ["--preset=" ++ p.name], false⟩,
      ⟨.build, "cmake",
        ["--build", "builds/" ++ p.name] ++ if o.parallel then ["--parallel"] else [], false⟩]
      ++ if o.install then [⟨.install, "cmake", ["--install", "builds/" ++ p.name], true⟩] else []

/-- The plan that is carried out is the agenda. -/
theorem plan_eq_agenda (o : Options) (p : Preset) : o.plan p = o.agenda p := by
  unfold Options.plan Options.agenda
  cases o.action with
  | none => rfl
  | clear => simp only [Command.clean, Command.tool, buildTool, buildDirectory_eq]
  | build =>
    simp only [Command.configure, Command.build, Command.install, Command.tool, buildTool,
      buildDirectory_eq]

/-- What the question about a default found, if it was asked: it is the first question, or the
second where the listing asks one before it. -/
def Options.defaultFinding (o : Options) (events : List Event) : Option (List Preset) :=
  (findings events)[if o.listing then 1 else 0]?

/-- **The preset that a build settles on**: the one named, or the first one that the question about
a default found. -/
def Options.settled (o : Options) (events : List Event) : Option Preset :=
  o.preset.or ((o.defaultFinding events).bind List.head?)

/-- **The steps that a build is to go through**: the agenda for the preset it settles on, and none
where it settles on none. -/
def Options.ahead (o : Options) (events : List Event) : List Step :=
  (o.settled events).elim [] o.agenda

/-! ## Calls and steps -/

/-- **Calls that go through steps**: they are the shortest first part of the steps that ends with a
call not answered well, or all the steps if there is no such call. -/
structure GoesThrough (steps : List Step) (output : Output) (cs : List Call) : Prop where
  inOrder : cs.map Call.command <+: steps.map Step.command
  withOutput : ∀ c ∈ cs, c.output = output
  wellBefore : ∀ c ∈ cs.dropLast, c.answer = .ok true
  stopped : cs.length < steps.length → ∃ c ∈ cs.getLast?, c.answer ≠ .ok true

/-- The last of some calls through steps is one of a stage, answered like this. -/
def EndsAt (steps : List Step) (cs : List Call) (stage : Stage) (answer : Except Fault Bool) :
    Prop :=
  ∃ last ∈ (cs.zip steps).getLast?, last.2.stage = stage ∧ last.1.answer = answer

/-- **What a build says of a stage** whose call was not answered well. -/
inductive Blames (p : Preset) : Stage → Except Fault Bool → BuildError → Prop
  | notStarted (stage : Stage) (fault : Fault) :
    Blames p stage (.error fault) (.notStarted stage fault)
  | configureFailed : Blames p .configure (.ok false) .configureFailed
  | unknownPreset : Blames p .configure (.ok false) (.unknownPreset p)
  | buildFailed : Blames p .build (.ok false) .buildFailed
  | cleanFailed : Blames p .clean (.ok false) .cleanFailed
  | installFailed : Blames p .install (.ok false) .installFailed

/-- **Events and an answer that keep to the agenda** of options: the calls are the shortest first
part of what is ahead that ends with a call not answered well, and the answer says how they went. -/
structure KeepsAgenda (o : Options) (events : List Event) (answer : Except BuildError Unit) :
    Prop where
  throughAhead : GoesThrough (o.ahead events) o.output (calls events)
  /-- Without a preset nothing is run. -/
  unsettled : o.settled events = none → calls events = []
  ok_iff : answer = .ok () ↔ o.action = .none ∨
    (o.settled events).isSome ∧ (calls events).length = (o.ahead events).length ∧
      ∀ c ∈ calls events, c.answer = .ok true
  noPresets_iff : answer = .error .noPresets ↔
    o.action ≠ .none ∧ o.preset = none ∧ o.defaultFinding events = some []
  /-- A fault is passed on as it is, with the stage of the last call. -/
  notStarted_iff : ∀ stage fault, answer = .error (.notStarted stage fault) ↔
    EndsAt (o.ahead events) (calls events) stage (.error fault)
  /-- The stage of the last call is blamed for its answer, whenever that was not well. -/
  endsAt_iff : ∀ stage a, a ≠ .ok true →
    (EndsAt (o.ahead events) (calls events) stage a ↔
      ∃ p e, o.settled events = some p ∧ answer = .error e ∧ Blames p stage a e)
  /-- There are no other errors. -/
  error_blames : ∀ e, answer = .error e → e = .noPresets ∨
    ∃ p stage a, o.settled events = some p ∧ Blames p stage a e

/-- The call of a step that was answered like this. -/
def Step.called (output : Output) (answer : Except Fault Bool) (s : Step) : Call :=
  ⟨s.command, output, answer⟩

/-- **The courses that steps can take**, by the calls made and the answer given. -/
inductive Course (p : Preset) (output : Output) (steps : List Step) :
    List Call → Except BuildError Unit → Prop
  /-- All steps were called and answered well. -/
  | whole : Course p output steps (steps.map (Step.called output (.ok true))) (.ok ())
  /-- Some steps were, and the one behind them is to blame. -/
  | stopped {before after : List Step} {step : Step} {answer : Except Fault Bool} {e : BuildError}
      (split : steps = before ++ step :: after) (blame : Blames p step.stage answer e) :
      Course p output steps
        (before.map (Step.called output (.ok true)) ++ [step.called output answer]) (.error e)

variable {p : Preset} {output : Output} {steps : List Step} {cs : List Call}
  {answer : Except BuildError Unit} {stage : Stage}

/-- No stage is blamed for a call that was answered well. -/
theorem Blames.not_well {a : Except Fault Bool} {e : BuildError} (h : Blames p stage a e) :
    a ≠ .ok true := by
  cases h <;> simp only [ne_eq, reduceCtorEq, not_false_eq_true, Except.ok.injEq,
    Bool.false_eq_true]

/-- An error blames one stage, for one answer. -/
theorem Blames.unique {stage' : Stage} {a a' : Except Fault Bool} {e : BuildError}
    (h : Blames p stage a e) (h' : Blames p stage' a' e) : stage = stage' ∧ a = a' := by
  cases h <;> cases h' <;> exact ⟨rfl, rfl⟩

/-- One more step in front that is answered well. -/
theorem Course.cons {step : Step} (h : Course p output steps cs answer) :
    Course p output (step :: steps) (step.called output (.ok true) :: cs) answer := by
  cases h with
  | whole => exact .whole
  | @stopped before after last a e split blame =>
    exact .stopped (show step :: steps = (step :: before) ++ last :: after by rw [split]; rfl) blame

/-! ## What a course says of its calls -/

/-- The last pair of the calls of a course that was stopped. -/
theorem getLast?_zip_called (before after : List Step) (step : Step) (a : Except Fault Bool) :
    ((before.map (Step.called output (.ok true)) ++ [step.called output a]).zip
      (before ++ step :: after)).getLast? = some (step.called output a, step) := by
  rw [List.zip_append (List.length_map _)]
  simp only [List.zip_cons_cons, List.zip_nil_left, List.getLast?_append, List.getLast?_singleton,
    Option.some_or]

/-- **A course ends at a stage badly** exactly if the stage is blamed for it. -/
theorem Course.endsAt_iff {a : Except Fault Bool} (h : Course p output steps cs answer)
    (bad : a ≠ .ok true) :
    EndsAt steps cs stage a ↔ ∃ e, answer = .error e ∧ Blames p stage a e := by
  cases h with
  | whole =>
    constructor
    · intro h
      obtain ⟨⟨c, step⟩, hlast, -, hanswer⟩ := h
      have hmem : (c, step) ∈ (steps.map (Step.called output (.ok true))).zip steps :=
        List.mem_of_getLast? hlast
      obtain ⟨st, -, rfl⟩ := List.mem_map.mp (List.of_mem_zip hmem).1
      exact absurd hanswer.symm bad
    · intro h
      obtain ⟨e, he, -⟩ := h
      cases he
  | @stopped before after step a' e split blame =>
    subst split
    unfold EndsAt
    rw [getLast?_zip_called]
    constructor
    · intro h
      obtain ⟨last, hlast, hstage, hanswer⟩ := h
      cases hlast
      have ha : a' = a := hanswer
      exact ⟨e, rfl, hstage ▸ ha ▸ blame⟩
    · intro h
      obtain ⟨e', he, blame'⟩ := h
      cases he
      exact ⟨_, rfl, blame.unique blame'⟩

theorem map_command_called (a : Except Fault Bool) (ss : List Step) :
    (ss.map (Step.called output a)).map Call.command = ss.map Step.command := by
  rw [List.map_map]
  rfl

/-- The calls of a course go through its steps. -/
theorem Course.goesThrough (h : Course p output steps cs answer) : GoesThrough steps output cs := by
  cases h with
  | whole =>
    refine ⟨map_command_called _ steps ▸ List.prefix_rfl, fun c hc => ?_, fun c hc => ?_,
      fun hlt => ?_⟩
    · obtain ⟨st, -, rfl⟩ := List.mem_map.mp hc
      rfl
    · obtain ⟨st, -, rfl⟩ := List.mem_map.mp (List.dropLast_subset _ hc)
      rfl
    · rw [List.length_map] at hlt
      exact absurd hlt (Nat.lt_irrefl _)
  | @stopped before after step a e split blame =>
    subst split
    refine ⟨?_, fun c hc => ?_, fun c hc => ?_, fun _ => ⟨step.called output a, ?_, blame.not_well⟩⟩
    · refine ⟨after.map Step.command, ?_⟩
      rw [List.map_append, map_command_called, List.map_append, List.append_assoc]
      rfl
    · rcases List.mem_append.mp hc with hc | hc
      · obtain ⟨st, -, rfl⟩ := List.mem_map.mp hc
        rfl
      · rw [List.mem_singleton.mp hc]
        rfl
    · rw [List.dropLast_concat] at hc
      obtain ⟨st, -, rfl⟩ := List.mem_map.mp hc
      rfl
    · rw [List.getLast?_concat]
      rfl

/-- An error at the end of a course blames a stage. -/
theorem Course.blames {e : BuildError} (h : Course p output steps cs (.error e)) :
    ∃ stage a, Blames p stage a e := by
  cases h with
  | stopped split blame => exact ⟨_, _, blame⟩

/-- A course is done exactly if all its steps were called and answered well. -/
theorem Course.ok_iff (h : Course p output steps cs answer) :
    answer = .ok () ↔ cs.length = steps.length ∧ ∀ c ∈ cs, c.answer = .ok true := by
  cases h with
  | whole =>
    refine ⟨fun _ => ⟨List.length_map _, fun c hc => ?_⟩, fun _ => rfl⟩
    obtain ⟨st, -, rfl⟩ := List.mem_map.mp hc
    rfl
  | @stopped before after step a e split blame =>
    constructor
    · intro he
      cases he
    · intro h
      obtain ⟨-, hwell⟩ := h
      exact absurd (hwell _ (List.mem_append_right _ (List.mem_singleton_self _))) blame.not_well

/-! ## Traces take courses -/

variable {o : Options} {es : List Event} {result : Except BuildError Unit}

/-- What is found blames the stage that failed. -/
theorem Diagnosis.blames {e : BuildError} (h : Diagnosis o p stage es e) :
    Blames p stage (.ok false) e := by
  cases h with
  | known => exact .configureFailed
  | unknown => exact .unknownPreset
  | build => exact .buildFailed
  | clean => exact .cleanFailed
  | install => exact .installFailed

/-- **A passage takes a course of its steps.** -/
theorem Passage.course (h : Passage o p steps es result) :
    Course p o.output steps (calls es) result := by
  induction h with
  | done => exact .whole
  | refused answer =>
    rw [calls_tried, answer]
    exact .stopped (List.nil_append _).symm (.notStarted _ _)
  | failed answer looked =>
    rw [calls_append, calls_tried, answer, looked.calls_eq_nil, List.append_nil]
    exact .stopped (List.nil_append _).symm looked.blames
  | succeeded answer next ih =>
    rw [calls_append, calls_finished, answer, List.singleton_append]
    exact ih.cons

/-- The question about a default is the first one behind the listing. -/
theorem Opening.defaultFinding_append (h : Opening o es) (rest : List Event) :
    o.defaultFinding (es ++ rest) = (findings rest).head? := by
  unfold Options.defaultFinding
  cases h with
  | listed wanted =>
    simp only [wanted, List.cons_append, findings_told, findings_queried, findings_printed,
      ↓reduceIte, List.getElem?_cons_succ, List.head?_eq_getElem?]
  | unlisted unwanted =>
    simp only [unwanted, List.nil_append, Bool.false_eq_true, ↓reduceIte, List.head?_eq_getElem?]

/-- A preset that is named is settled on. -/
theorem settled_of_named (name : o.preset = some p) : o.settled es = some p := by
  rw [Options.settled, name]
  rfl

/-- Without a name, the first preset that the question about a default finds is settled on. -/
theorem Opening.settled_default {found : Discovered} {ps : List Preset} (h : Opening o es)
    (unnamed : o.preset = none) (head : found.presets = p :: ps) (rest : List Event) :
    o.settled (es ++ .queried found :: rest) = some p := by
  rw [Options.settled, unnamed, h.defaultFinding_append, findings_queried, List.head?_cons, head]
  rfl

/-! ## Builds keep to the agenda -/

/-- Calls that are none end at no stage. -/
theorem not_endsAt_nil {a : Except Fault Bool} : ¬ EndsAt steps [] stage a := by
  intro h
  obtain ⟨last, hlast, -⟩ := h
  rw [List.zip_nil_left] at hlast
  cases hlast

theorem goesThrough_nil : GoesThrough [] output [] :=
  ⟨List.prefix_rfl, nofun, nofun, fun h => absurd h (Nat.lt_irrefl _)⟩

/-- Without an action there is nothing ahead. -/
theorem ahead_of_action_none (h : o.action = .none) : o.ahead es = [] := by
  unfold Options.ahead
  cases o.settled es with
  | none => rfl
  | some p => rw [Option.elim_some, Options.agenda, h]

/-- A build without an action keeps to its agenda. -/
theorem keepsAgenda_of_idle (ha : o.action = .none) (hcs : calls es = []) :
    KeepsAgenda o es (.ok ()) := by
  have hahead : o.ahead es = [] := ahead_of_action_none ha
  constructor
  case throughAhead => rw [hahead, hcs]; exact goesThrough_nil
  case unsettled => exact fun _ => hcs
  case ok_iff => exact ⟨fun _ => .inl ha, fun _ => rfl⟩
  case noPresets_iff => simp only [ha, reduceCtorEq, ne_eq, not_true_eq_false, false_and]
  case notStarted_iff => simp only [hcs, reduceCtorEq, not_endsAt_nil, implies_true]
  case endsAt_iff =>
    simp only [hcs, reduceCtorEq, false_and, and_false, exists_false, not_endsAt_nil, implies_true]
  case error_blames => exact nofun

/-- A build that found no preset to settle on keeps to its agenda. -/
theorem keepsAgenda_of_noPresets (ha : o.action ≠ .none) (hp : o.preset = none)
    (hfound : o.defaultFinding es = some []) (hcs : calls es = []) :
    KeepsAgenda o es (.error .noPresets) := by
  have hsettled : o.settled es = none := by
    rw [Options.settled, hp, hfound]
    rfl
  have hahead : o.ahead es = [] := by
    rw [Options.ahead, hsettled]
    rfl
  constructor
  case throughAhead => rw [hahead, hcs]; exact goesThrough_nil
  case unsettled => exact fun _ => hcs
  case ok_iff =>
    simp only [reduceCtorEq, ha, hsettled, Option.isSome_none, Bool.false_eq_true, false_and,
      or_self]
  case noPresets_iff => exact ⟨fun _ => ⟨ha, hp, hfound⟩, fun _ => rfl⟩
  case notStarted_iff =>
    simp only [hcs, Except.error.injEq, reduceCtorEq, not_endsAt_nil, implies_true]
  case endsAt_iff =>
    simp only [hcs, hsettled, reduceCtorEq, false_and, exists_false, not_endsAt_nil, implies_true]
  case error_blames =>
    intro e he
    exact .inl (Except.error.inj he).symm

/-- A build that takes a course of the agenda for the preset it settled on keeps to its agenda. -/
theorem keepsAgenda_of_course (ha : o.action ≠ .none) (hp : o.settled es = some p)
    (hfound : o.preset = none → o.defaultFinding es ≠ some [])
    (hcourse : Course p o.output (o.agenda p) (calls es) answer) : KeepsAgenda o es answer := by
  have hahead : o.ahead es = o.agenda p := by
    rw [Options.ahead, hp]
    rfl
  rw [← hahead] at hcourse
  constructor
  case throughAhead => exact hcourse.goesThrough
  case unsettled =>
    intro hnone
    rw [hp] at hnone
    cases hnone
  case ok_iff =>
    simp only [ha, hp, Option.isSome_some, true_and, false_or]
    exact hcourse.ok_iff
  case noPresets_iff =>
    constructor
    · rintro rfl
      obtain ⟨stage, a, blame⟩ := hcourse.blames
      cases blame
    · intro h
      obtain ⟨-, hnone, hempty⟩ := h
      exact absurd hempty (hfound hnone)
  case notStarted_iff =>
    intro stage fault
    rw [hcourse.endsAt_iff (by simp only [ne_eq, reduceCtorEq, not_false_eq_true])]
    constructor
    · intro he
      exact ⟨_, he, .notStarted stage fault⟩
    · intro h
      obtain ⟨e, he, blame⟩ := h
      cases blame
      exact he
  case endsAt_iff =>
    intro stage a bad
    rw [hcourse.endsAt_iff bad, hp]
    constructor
    · intro h
      obtain ⟨e, he, blame⟩ := h
      exact ⟨p, e, rfl, he, blame⟩
    · intro h
      obtain ⟨q, e, hq, he, blame⟩ := h
      cases hq
      exact ⟨e, he, blame⟩
  case error_blames =>
    rintro e rfl
    obtain ⟨stage, a, blame⟩ := hcourse.blames
    exact .inr ⟨p, stage, a, hp, blame⟩

/-- **Every trace keeps to the agenda.** -/
theorem Trace.keepsAgenda (h : Trace o es result) : KeepsAgenda o es result := by
  cases h with
  | @mk opening acting result first then_ =>
    have hcalls : calls (opening ++ acting ++ closing result) = calls acting := by
      simp only [calls_append, first.calls_eq_nil, calls_closing, List.nil_append, List.append_nil]
    have hfound : o.defaultFinding (opening ++ acting ++ closing result) =
        (findings (acting ++ closing result)).head? := by
      rw [List.append_assoc, first.defaultFinding_append]
    cases then_ with
    | idle action => exact keepsAgenda_of_idle action hcalls
    | unresolved action unnamed empty =>
      refine keepsAgenda_of_noPresets action unnamed ?_ hcalls
      rw [hfound, List.singleton_append, findings_queried, List.head?_cons, empty]
    | named action name passage =>
      refine keepsAgenda_of_course action (settled_of_named name) ?_
        (hcalls ▸ plan_eq_agenda o _ ▸ passage.course)
      intro unnamed
      rw [name] at unnamed
      cases unnamed
    | default action unnamed head passage =>
      rw [List.cons_append, findings_queried, List.head?_cons, head] at hfound
      refine keepsAgenda_of_course action ?_ (fun _ => ?_)
        (hcalls ▸ plan_eq_agenda o _ ▸ passage.course)
      · rw [List.append_assoc]
        exact first.settled_default unnamed head _
      · rw [hfound]
        simp only [ne_eq, Option.some.injEq, reduceCtorEq, not_false_eq_true]

/-- **A build keeps to its agenda**, in every world. -/
theorem build_keeps_agenda (w : World σ) (o : Options) (s : σ) :
    let run := w.perform o.build s
    KeepsAgenda o run.events run.answer :=
  (build_trace w o s).keepsAgenda

end PresetBuild
