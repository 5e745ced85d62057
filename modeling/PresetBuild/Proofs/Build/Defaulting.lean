import PresetBuild.Proofs.Build.Trace
import PresetBuild.Proofs.Likeness
import PresetBuild.Rehearsal

/-!
# Taking the first preset and naming it

A build that names no preset takes the first one there is. Where every question about presets has
the same answer, it does what a build does that names this preset, and says one thing more: which
preset it took, right before its first stage (`defaulting_as_named`). What it took is among the
presets found when a failed configure step is looked into, so it is never said not to exist.

The two builds ask differently often, so their worlds are in different states when the stages begin.
That does not matter where the answers do not change (`rehearsal_alike_of_constant`), and so their
events are alike but for one question and its notice (`defaulting_events`).
-/

namespace PresetBuild

variable {σ : Type}

/-! ## Builds with a preset, performed -/

namespace World

variable (w : World σ) (o : Options) {p : Preset} {s : σ}

/-- A build that names its preset carries its plan out behind the listing. -/
theorem perform_build_named (acts : o.action ≠ .none) (name : o.preset = some p) (s : σ) :
    let listed := w.perform o.list s
    let carried := w.perform (o.carryOut p (o.plan p)) listed.state
    w.perform o.build s =
      ⟨listed.events ++ (carried.events ++ closing carried.answer), carried.answer,
        carried.state⟩ := by
  intro listed carried
  have hresolve := perform_resolve_named w o p listed.state name
  have hact := perform_act_resolved acts (congrArg Performance.answer hresolve)
  rw [hresolve] at hact
  rw [perform_build, hact]
  exact congrArg (fun es => Performance.mk es carried.answer carried.state)
    (List.append_assoc _ _ _)

/-- A build that takes the first preset there is says so, and carries its plan out behind that. -/
theorem perform_build_default (acts : o.action ≠ .none) (unnamed : o.preset = none)
    {ps : List Preset} (first : (w.query (w.perform o.list s).state).1.presets = p :: ps) :
    let listed := w.perform o.list s
    let asked := w.query listed.state
    let carried := w.perform (o.carryOut p (o.plan p)) asked.2
    w.perform o.build s =
      ⟨listed.events ++ .queried asked.1 :: .told (.defaulting p) ::
          (carried.events ++ closing carried.answer),
        carried.answer, carried.state⟩ := by
  intro listed asked carried
  have hresolve := perform_resolve_default w o p listed.state unnamed first
  have hact := perform_act_resolved acts (congrArg Performance.answer hresolve)
  rw [hresolve] at hact
  rw [perform_build, hact]
  exact congrArg (fun es => Performance.mk es carried.answer carried.state)
    (List.append_assoc _ _ _)

/-- A preset that every question finds is never said not to exist. -/
theorem perform_carryOut_known (known : ∀ s, p ∈ (w.query s).1.presets) (steps : List Step) (s : σ)
    (q : Preset) : (w.perform (o.carryOut p steps) s).answer ≠ .error (.unknownPreset q) := by
  induction steps generalizing s with
  | nil => exact nofun
  | cons step rest ih =>
    cases h : (w.start step.command o.output s).1.report.answer with
    | error fault =>
      rw [perform_carryOut_refused p rest h]
      exact nofun
    | ok well =>
      cases well with
      | false =>
        rw [perform_carryOut_failed p rest h]
        cases step.stage with
        | configure =>
          show Except.error (w.perform (o.diagnose p) _).answer ≠ _
          rw [perform_diagnose_known w o p _ (known _)]
          exact nofun
        | build => exact nofun
        | clean => exact nofun
        | install => exact nofun
      | true =>
        rw [perform_carryOut_succeeded p rest h]
        exact ih _

/-- A build that takes the first preset is never told that it does not exist, where every question
finds the same presets. -/
theorem perform_build_known (acts : o.action ≠ .none) (unnamed : o.preset = none)
    {ps : List Preset} (constant : ∀ s, (w.query s).1.presets = p :: ps) (s : σ) (q : Preset) :
    (w.perform o.build s).answer ≠ .error (.unknownPreset q) := by
  rw [perform_build_default w o acts unnamed (constant _)]
  exact perform_carryOut_known w o (fun s => (constant s).symm ▸ List.mem_cons_self) _ _ q

end World

/-- The steps of a plan are carried out in the same way whether or not the options name a preset. -/
theorem carryOut_naming (o : Options) (name : Option Preset) (p : Preset) (steps : List Step) :
    Options.carryOut { o with preset := name } p steps = o.carryOut p steps := by
  induction steps with
  | nil => rfl
  | cons step rest ih =>
    have hfailure : Options.failure { o with preset := name } p step.stage =
        o.failure p step.stage := by
      cases step.stage <;> rfl
    rw [Options.carryOut, Options.carryOut, ih, hfailure]

/-! ## Worlds whose answers do not change -/

variable {d : Discovery} {p : Preset} {rest : List Preset} {reports reports' : Nat → Report}

/-- **Rehearsals whose questions all have one answer are alike**, however many of them were asked:
only the commands run need be as many. -/
theorem rehearsal_alike_of_constant {ps : List Preset} (constant : ∀ n, (d.find n).presets = ps)
    (answers : ∀ n, (reports n).answer = (reports' n).answer) :
    (rehearsal d reports).Alike (rehearsal d reports') fun s t => s.starts = t.starts where
  query := by
    intro s t states
    exact ⟨Discovery.find_alike ((constant s.queries).trans (constant t.queries).symm), states⟩
  start := by
    intro s t c output states
    refine ⟨⟨?_, rfl, rfl⟩, congrArg (· + 1) states⟩
    show (reports s.starts).answer = (reports' t.starts).answer
    rw [states]
    exact answers t.starts

/-- The listing of a rehearsal runs no command. -/
theorem starts_of_list (d : Discovery) (reports : Nat → Report) (o : Options) (s : Progress) :
    ((rehearsal d reports).perform o.list s).state.starts = s.starts := by
  cases h : o.listing with
  | true => rw [World.perform_list_wanted _ o s h]; rfl
  | false => rw [World.perform_list_unwanted _ o s h]

/-! ## What is said before the first stage and at it -/

/-- **What the listing says**, where it is wanted. -/
def Options.heading (o : Options) : List Notice :=
  if o.listing then [.listing] else []

/-- A question that lets nothing through is not spoken of. -/
theorem stderrOf_queried {found : Discovered} (silent : found.stderr = []) (color : Bool)
    (es : List Event) : stderrOf color (.queried found :: es) = stderrOf color es :=
  congrArg (· ++ stderrOf color es) silent

/-- The names of presets are not said. -/
theorem stderrOf_printed (color : Bool) (ps : List Preset) :
    stderrOf color ((ps.map Event.printed).map Event.untimed) = [] := by
  induction ps with
  | nil => rfl
  | cons p ps ih => exact ih

/-- All that the listing says is its heading. -/
theorem Opening.stderrOf_eq {o : Options} {es : List Event} (h : Opening o es)
    (silent : ∀ found, .queried found ∈ es → found.stderr = []) (color : Bool) :
    stderrOf color (es.map Event.untimed) = stderrOf color (o.heading.map .told) := by
  cases h with
  | @listed found wanted =>
    have hquestion := stderrOf_queried (silent found (List.mem_cons_of_mem _ List.mem_cons_self))
      color ((found.presets.map Event.printed).map Event.untimed)
    rw [stderrOf_printed] at hquestion
    rw [Options.heading, if_pos wanted]
    exact congrArg (Event.stderr color (.told .listing) ++ ·) hquestion
  | unlisted unwanted =>
    rw [Options.heading, unwanted]
    rfl

/-- Steps are carried out from the first one, which says that it begins. -/
theorem Passage.begins {o : Options} {step : Step} {steps : List Step} {es : List Event}
    {result : Except BuildError Unit} (h : Passage o p (step :: steps) es result) :
    [Event.told (.started step.stage)] <+: es := by
  cases h with
  | refused => exact ⟨_, rfl⟩
  | failed => exact ⟨_, rfl⟩
  | succeeded => exact ⟨_, rfl⟩

/-- There is a first stage wherever there is something to do. -/
theorem plan_eq_cons {o : Options} (acts : o.action ≠ .none) (p : Preset) :
    ∃ step steps, o.plan p = step :: steps := by
  unfold Options.plan
  cases h : o.action with
  | none => exact absurd h acts
  | clear => exact ⟨_, _, rfl⟩
  | build => exact ⟨_, _, rfl⟩

/-! ## The two builds -/

/-- **What sets the two builds apart**: where every question finds the same presets and the commands
come out alike, the events are alike but for the question about a default and the notice that
answers it, which stand between the listing and the stages. -/
theorem defaulting_events (constant : ∀ n, (d.find n).presets = p :: rest) {o : Options}
    (unnamed : o.preset = none) (acts : o.action ≠ .none)
    (answers : ∀ n, (reports n).answer = (reports' n).answer) :
    let defaulted := (rehearsal d reports).perform o.build {}
    let named := (rehearsal d reports').perform (Options.build { o with preset := some p }) {}
    defaulted.answer = named.answer ∧
      ∃ opening opening' found stages stages',
        defaulted.events = opening ++ .queried found :: .told (.defaulting p) :: stages ∧
        named.events = opening' ++ stages' ∧
        Opening o opening ∧ List.Forall₂ Event.Alike opening opening' ∧
        (∀ asked, .queried asked ∈ defaulted.events → asked.stdout = [] ∧ asked.stderr = []) ∧
        (∃ first ∈ (o.plan p).head?, [.told (.started first.stage)] <+: stages) ∧
        List.Forall₂ Event.Alike stages stages' := by
  intro defaulted named
  have halike := rehearsal_alike_of_constant constant answers
  let listed := (rehearsal d reports).perform o.list {}
  let listed' := (rehearsal d reports').perform o.list {}
  let asked := (rehearsal d reports).query listed.state
  let carried := (rehearsal d reports).perform (o.carryOut p (o.plan p)) asked.2
  let carried' := (rehearsal d reports').perform (o.carryOut p (o.plan p)) listed'.state
  have hdefaulted : defaulted = ⟨listed.events ++ .queried asked.1 :: .told (.defaulting p) ::
      (carried.events ++ closing carried.answer), carried.answer, carried.state⟩ :=
    World.perform_build_default _ o acts unnamed (constant listed.state.queries)
  have hnamed : named =
      ⟨listed'.events ++ (carried'.events ++ closing carried'.answer), carried'.answer,
        carried'.state⟩ := by
    have h := World.perform_build_named (rehearsal d reports') { o with preset := some p } acts
      rfl {}
    rw [carryOut_naming] at h
    exact h
  have hlisted := (halike.perform (list_timeless o) (s := {}) (t := {}) rfl).1
  -- one more question was asked, but no more commands were run
  have hstates : asked.2.starts = listed'.state.starts :=
    (starts_of_list d reports o {}).trans (starts_of_list d reports' o {}).symm
  obtain ⟨hcarried, hanswer⟩ := halike.perform (carryOut_timeless o p (o.plan p)) hstates
  have hclosing : List.Forall₂ Event.Alike (closing carried.answer) (closing carried'.answer) := by
    rw [show carried'.answer = carried.answer from hanswer.symm]
    cases carried.answer with
    | ok => exact .cons (.told rfl) .nil
    | error e => exact .nil
  obtain ⟨first, steps, hplan⟩ := plan_eq_cons acts p
  have hpassage : Passage o p (first :: steps) carried.events carried.answer :=
    hplan ▸ carryOut_passage (rehearsal d reports) o p (o.plan p) asked.2
  have hsilent (asked : Discovered) (h : .queried asked ∈ defaulted.events) :
      asked.stdout = [] ∧ asked.stderr = [] := by
    obtain ⟨t, rfl⟩ := World.answers_of_mem_perform _ _ h
    exact d.find_silent t.queries
  rw [hdefaulted] at hsilent ⊢
  rw [hnamed]
  exact ⟨hanswer, listed.events, listed'.events, asked.1, _, _, rfl, rfl,
    list_opening (rehearsal d reports) o {}, hlisted, hsilent,
    ⟨first, hplan ▸ rfl, hpassage.begins.trans (List.prefix_append _ _)⟩,
    List.rel_append hcarried hclosing⟩

/-- **A build that takes the first preset does as one that names it.** Where every question finds
the same presets and the commands come out alike, both make the same calls, write the same to
standard output and end with the same answer, which is never that the preset does not exist. On
standard error, times aside, the one says which preset it took, between the heading and the first
stage, and nothing else sets the two apart. -/
theorem defaulting_as_named (constant : ∀ n, (d.find n).presets = p :: rest) {o : Options}
    (unnamed : o.preset = none) (acts : o.action ≠ .none)
    (answers : ∀ n, (reports n).answer = (reports' n).answer) :
    let defaulted := (rehearsal d reports).perform o.build {}
    let named := (rehearsal d reports').perform (Options.build { o with preset := some p }) {}
    let said color ns := stderrOf color (ns.map Event.told)
    calls defaulted.events = calls named.events ∧
      stdoutOf defaulted.events = stdoutOf named.events ∧
      defaulted.answer = named.answer ∧
      (∀ q, defaulted.answer ≠ .error (.unknownPreset q)) ∧
      ∀ color, ∃ first ∈ (o.plan p).head?, ∃ after, said color [.started first.stage] <+: after ∧
        stderrOf color (named.events.map Event.untimed) = said color o.heading ++ after ∧
        stderrOf color (defaulted.events.map Event.untimed) =
          said color o.heading ++ said color [.defaulting p] ++ after := by
  have hknown := World.perform_build_known (rehearsal d reports) o acts unnamed
    (fun s => constant s.queries) {}
  have hevents := defaulting_events constant unnamed acts answers
  -- all that matters from here on are the events and the answers
  generalize (rehearsal d reports).perform o.build {} = defaulted at hknown hevents ⊢
  generalize (rehearsal d reports').perform (Options.build { o with preset := some p }) {} = named
    at hevents ⊢
  obtain ⟨hanswer, opening, opening', found, stages, stages', hdefaulted, hnamed, hopening, halike,
    hsilent, ⟨first, hfirst, more, hmore⟩, hstages⟩ := hevents
  intro _ _ _
  obtain ⟨hout, herr⟩ := hsilent found (hdefaulted ▸ List.mem_append_right _ List.mem_cons_self)
  have hspoken := hopening.stderrOf_eq fun asked hasked =>
    (hsilent asked (hdefaulted ▸ List.mem_append_left _ hasked)).2
  have hcalls : calls defaulted.events = calls named.events := by
    rw [hdefaulted, hnamed, calls_append, calls_append, calls_queried, calls_told,
      calls_eq_of_alike halike, calls_eq_of_alike hstages]
  have hstdout : stdoutOf defaulted.events = stdoutOf named.events := by
    have hquestion : stdoutOf (.queried found :: .told (.defaulting p) :: stages) =
        stdoutOf stages := congrArg (· ++ stdoutOf stages) hout
    rw [hdefaulted, hnamed, stdoutOf_append, stdoutOf_append, hquestion,
      stdoutOf_eq_of_alike halike, stdoutOf_eq_of_alike hstages]
  refine ⟨hcalls, hstdout, hanswer, hknown, fun color => ?_⟩
  refine ⟨first, hfirst, stderrOf color (stages.map Event.untimed), ?_, ?_, ?_⟩
  · rw [← hmore, List.map_append, stderrOf_append]
    exact List.prefix_append _ _
  · rw [hnamed, List.map_append, stderrOf_append, ← stderrOf_eq_of_alike color halike,
      ← stderrOf_eq_of_alike color hstages, hspoken]
  · have hsaid : (Event.queried found :: .told (.defaulting p) :: stages).map Event.untimed =
        .queried found :: ([Notice.defaulting p].map .told ++ stages.map Event.untimed) := rfl
    rw [hdefaulted, List.map_append, stderrOf_append, hspoken, hsaid, stderrOf_queried herr,
      stderrOf_append, ← List.append_assoc]

/-- A listing before a build without a preset, whose configure step fails, at two speeds. -/
theorem defaulting_as_named_failing :
    let d := Discovery.fixed fun _ => [⟨"debug"⟩, ⟨"release"⟩]
    let o : Options := ⟨.build, none, true, .silent, true, true, .listing⟩
    let defaulted := (rehearsal d fun _ => ⟨.ok false, ⟨1⟩⟩).perform o.build {}
    let named := (rehearsal d fun _ => ⟨.ok false, ⟨2⟩⟩).perform
      (Options.build { o with preset := some ⟨"debug"⟩ }) {}
    (∀ n, (d.find n).presets = [⟨"debug"⟩, ⟨"release"⟩]) ∧ o.preset = none ∧ o.action ≠ .none ∧
      calls defaulted.events = calls named.events ∧
      stdoutOf defaulted.events = stdoutOf named.events ∧ defaulted.answer = named.answer ∧
      ∀ q, defaulted.answer ≠ .error (.unknownPreset q) := by
  intro d o
  have constant (n : Nat) : (d.find n).presets = [⟨"debug"⟩, ⟨"release"⟩] := rfl
  have acts : o.action ≠ .none := by decide
  obtain ⟨hcalls, hstdout, hanswer, hknown, -⟩ := @defaulting_as_named d _ _
    (fun _ => ⟨.ok false, ⟨1⟩⟩) (fun _ => ⟨.ok false, ⟨2⟩⟩) constant o rfl acts fun _ => rfl
  exact ⟨constant, rfl, acts, hcalls, hstdout, hanswer, hknown⟩

end PresetBuild
