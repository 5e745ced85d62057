import PresetBuild.Proofs.Build.Questions

/-!
# What a build says, and where

A build says that a stage begins, runs the command of that stage, and says that the stage has ended
if the command was answered well. These three stand together: nothing comes between them, and none
of the words is there without the call (`Brackets`). That all is done is said once and last, of a
build that succeeds and of no other. A hint is given at most once, behind a configure step that
failed, in a build that ends for that reason (`HintsInPlace`). The main statement is
`build_brackets_stages`, of every world.

What belongs to a stage comes in rounds (`Round.events`), and what stands between the rounds belongs
to no stage (`InRounds`). Any event of a stage is therefore found in a round, with the rest of that
round on both sides of it (`InRounds.split`), and what a round looks like is known.
-/

namespace PresetBuild

variable {σ : Type}

/-! ## Readings of the events -/

/-- Whether an event belongs to a stage: a call, or the word that a stage begins or has ended. -/
def Event.ofStage : Event → Bool
  | .started _ _ _ | .told (.started _) | .told (.finished _ _) => true
  | _ => false

/-- The hint that an event gives, if it gives one. -/
def Event.hint? : Event → Option Notice
  | .told n => if n.severity = .hint then some n else none
  | _ => none

/-- **The hints among some events**, in order. -/
def hints (events : List Event) : List Notice :=
  events.filterMap Event.hint?

@[simp] theorem hints_append (xs ys : List Event) : hints (xs ++ ys) = hints xs ++ hints ys :=
  List.filterMap_append

/-! ## What is to be shown -/

/-- **A word that a stage has ended comes next**, and no second one behind it. -/
def ReportedNext (stage : Stage) (after : List Event) : Prop :=
  ∃ took later, after = .told (.finished stage took) :: later ∧
    ∀ s t, later.head? ≠ some (.told (.finished s t))

/-- **A word that a stage begins came right before**, and no second one before it. -/
def AnnouncedBefore (stage : Stage) (before : List Event) : Prop :=
  ∃ earlier, before = earlier ++ [.told (.started stage)] ∧
    ∀ s, earlier.getLast? ≠ some (.told (.started s))

/-- **Events whose hints are in place.** -/
structure HintsInPlace (o : Options) (events : List Event) (answer : Except BuildError Unit) :
    Prop where
  /-- Only a build that ends at its configure step gives a hint. -/
  ended : hints events ≠ [] →
    answer = .error .configureFailed ∨ ∃ p, answer = .error (.unknownPreset p)
  once : (hints events).length ≤ 1
  /-- A hint comes behind a configure step that failed. -/
  behind : ∀ before n after, events = before ++ .told n :: after → n.severity = .hint →
    ConfigureFailed before
  /-- Where configuring failed for no reason to be had, there is a hint if output was hidden. -/
  hidden : answer = .error .configureFailed → (hints events ≠ [] ↔ o.output = .silent)

/-- **Events and an answer of a build whose words are in place.** -/
structure Brackets (o : Options) (events : List Event) (answer : Except BuildError Unit) :
    Prop where
  /-- Each call is announced, and reported exactly if it was answered well. -/
  called : ∀ before c output outcome after,
    events = before ++ .started c output outcome :: after →
      ∃ stage, ⟨stage, c⟩ ∈ o.ahead events ∧ AnnouncedBefore stage before ∧
        (outcome.report.answer = .ok true ↔ ReportedNext stage after)
  /-- No stage is announced without its call. -/
  announced : ∀ before stage after, events = before ++ .told (.started stage) :: after →
    ∃ c output outcome later, ⟨stage, c⟩ ∈ o.ahead events ∧
      after = .started c output outcome :: later
  /-- No stage is reported without its call. -/
  reported : ∀ before stage took after,
    events = before ++ .told (.finished stage took) :: after →
      ∃ c output outcome earlier, ⟨stage, c⟩ ∈ o.ahead events ∧
        outcome.report.answer = .ok true ∧ took = outcome.report.took ∧
        before = earlier ++ [.told (.started stage), .started c output outcome]
  /-- That all is done is said of a build that succeeds, and of no other. -/
  done_iff : .told .done ∈ events ↔ answer = .ok ()
  /-- It is said once, and last. -/
  doneLast : ∀ before after, events = before ++ .told .done :: after →
    .told .done ∉ before ∧ after = []
  hinted : HintsInPlace o events answer

/-! ## Rounds -/

/-- **A round**: a step that is tried, and what comes of its command. -/
structure Round where
  step : Step
  outcome : Outcome

/-- The word that the stage of a round has ended, if its command was answered well. -/
def Round.report (r : Round) : List Event :=
  match r.outcome.report.answer with
  | .ok true => [.told (.finished r.step.stage r.outcome.report.took)]
  | _ => []

/-- **The events of a round.** -/
def Round.events (o : Options) (r : Round) : List Event :=
  tried o r.step r.outcome ++ r.report

/-- **A place in a round**: what stands before an event of the round, the event, and what stands
behind it. -/
inductive Round.Place (o : Options) (r : Round) : List Event → Event → List Event → Prop
  | start : Place o r [] (.told (.started r.step.stage))
      (.started r.step.command o.output r.outcome :: r.report)
  | call : Place o r [.told (.started r.step.stage)] (.started r.step.command o.output r.outcome)
      r.report
  | report (well : r.outcome.report.answer = .ok true) :
      Place o r [.told (.started r.step.stage), .started r.step.command o.output r.outcome]
        (.told (.finished r.step.stage r.outcome.report.took)) []

/-- **Events in rounds**: what belongs to a stage stands in a round, for one of some steps. -/
inductive InRounds (o : Options) (steps : List Step) : List Event → Prop
  | nil : InRounds o steps []
  | other {e : Event} {es : List Event} (apart : e.ofStage = false) (next : InRounds o steps es) :
      InRounds o steps (e :: es)
  | round {r : Round} {es : List Event} (step : r.step ∈ steps) (next : InRounds o steps es) :
      InRounds o steps (r.events o ++ es)

variable {o : Options} {steps : List Step} {es : List Event} {r : Round}

theorem Round.report_of_well (h : r.outcome.report.answer = .ok true) :
    r.report = [.told (.finished r.step.stage r.outcome.report.took)] := by
  rw [report, h]

theorem Round.report_of_not_well (h : r.outcome.report.answer ≠ .ok true) : r.report = [] := by
  unfold report
  split
  · next hwell => exact absurd hwell h
  · rfl

/-- There are three places in a round, of which the last is there if the command was answered well.
-/
theorem Round.place {inside behind : List Event} {e : Event}
    (h : r.events o = inside ++ e :: behind) : r.Place o inside e behind := by
  have hround : r.events o = .told (.started r.step.stage) ::
      .started r.step.command o.output r.outcome :: r.report := rfl
  rcases List.cons_eq_append_iff.mp (hround.symm.trans h) with ⟨rfl, hstart⟩ | ⟨inside, rfl, hrest⟩
  · obtain ⟨rfl, rfl⟩ := List.cons.inj hstart
    exact .start
  rcases List.cons_eq_append_iff.mp hrest with ⟨rfl, hcall⟩ | ⟨inside, rfl, hreport⟩
  · obtain ⟨rfl, rfl⟩ := List.cons.inj hcall
    exact .call
  by_cases well : r.outcome.report.answer = .ok true
  · rw [report_of_well well] at hreport
    rcases List.cons_eq_append_iff.mp hreport with ⟨rfl, hword⟩ | ⟨inside, rfl, hnil⟩
    · obtain ⟨rfl, rfl⟩ := List.cons.inj hword
      exact .report well
    · exact absurd hnil.symm (List.append_ne_nil_of_right_ne_nil _ (List.cons_ne_nil _ _))
  · rw [report_of_not_well well] at hreport
    exact absurd hreport.symm (List.append_ne_nil_of_right_ne_nil _ (List.cons_ne_nil _ _))

theorem inRounds_of_apart (h : ∀ e ∈ es, e.ofStage = false) : InRounds o steps es := by
  induction es with
  | nil => exact .nil
  | cons e es ih =>
    exact .other (h e List.mem_cons_self) (ih fun x hx => h x (List.mem_cons_of_mem _ hx))

theorem InRounds.append {xs ys : List Event} (hx : InRounds o steps xs)
    (hy : InRounds o steps ys) : InRounds o steps (xs ++ ys) := by
  induction hx with
  | nil => exact hy
  | other apart _ ih => exact .other apart ih
  | round step _ ih =>
    rw [List.append_assoc]
    exact .round step ih

/-- **An event of a stage stands in a round**, by induction on the rounds. -/
theorem InRounds.split (h : InRounds o steps es) {before after : List Event} {e : Event}
    (split : es = before ++ e :: after) (staged : e.ofStage = true) :
    ∃ (r : Round) (front inside behind rear : List Event), r.step ∈ steps ∧
      r.Place o inside e behind ∧ before = front ++ inside ∧ after = behind ++ rear ∧
      InRounds o steps front ∧ InRounds o steps rear := by
  induction h generalizing before with
  | nil => exact absurd split.symm (List.append_ne_nil_of_right_ne_nil _ (List.cons_ne_nil _ _))
  | @other x es apart next ih =>
    rcases List.cons_eq_append_iff.mp split with ⟨rfl, hhead⟩ | ⟨before, rfl, hes⟩
    · obtain ⟨rfl, -⟩ := List.cons.inj hhead
      rw [apart] at staged
      cases staged
    · obtain ⟨r, front, inside, behind, rear, hstep, place, rfl, hafter, hfront, hrear⟩ := ih hes
      exact ⟨r, x :: front, inside, behind, rear, hstep, place, rfl, hafter, .other apart hfront,
        hrear⟩
  | @round r es step next ih =>
    rcases append_eq_append_cons split with ⟨more, rfl, hes⟩ | ⟨behind, hround, hafter⟩
    · obtain ⟨r', front, inside, behind, rear, hstep, place, rfl, hafter, hfront, hrear⟩ := ih hes
      exact ⟨r', r.events o ++ front, inside, behind, rear, hstep, place,
        (List.append_assoc _ _ _).symm, hafter, .round step hfront, hrear⟩
    · exact ⟨r, [], before, behind, es, step, Round.place hround, rfl, hafter, .nil, next⟩

/-- Rounds do not begin with a word that a stage has ended. -/
theorem InRounds.head?_ne (h : InRounds o steps es) (s : Stage) (t : Elapsed) :
    es.head? ≠ some (.told (.finished s t)) := by
  intro hhead
  cases h with
  | nil => cases hhead
  | other apart =>
    obtain rfl := Option.some.inj hhead
    cases apart
  | round => cases hhead

/-- Rounds do not end with a word that a stage begins. -/
theorem InRounds.getLast?_ne (h : InRounds o steps es) (s : Stage) :
    es.getLast? ≠ some (.told (.started s)) := by
  intro hlast
  obtain ⟨front, hfront⟩ := List.getLast?_eq_some_iff.mp hlast
  obtain ⟨r, -, inside, behind, rear, -, place, -, hafter, -⟩ := h.split hfront rfl
  cases place with
  | start => cases hafter

/-! ## Passages -/

variable {p : Preset} {result : Except BuildError Unit}

/-- Looking into a failed step belongs to no stage, and nothing is done then. -/
theorem Diagnosis.apart {stage : Stage} {e : BuildError} (h : Diagnosis o p stage es e) :
    ∀ x ∈ es, x.ofStage = false ∧ x ≠ .told .done := by
  cases h with
  | known member =>
    refine List.forall_mem_cons.mpr ⟨⟨rfl, nofun⟩, ?_⟩
    cases o.output with
    | inherit => exact List.forall_mem_nil _
    | silent => exact List.forall_mem_singleton.mpr ⟨rfl, nofun⟩
  | @unknown found again missing =>
    refine List.forall_mem_cons.mpr ⟨⟨rfl, nofun⟩, List.forall_mem_cons.mpr ⟨⟨rfl, nofun⟩, ?_⟩⟩
    cases again.presets with
    | nil => exact List.forall_mem_nil _
    | cons q qs => exact List.forall_mem_singleton.mpr ⟨rfl, nofun⟩
  | build => exact List.forall_mem_nil _
  | clean => exact List.forall_mem_nil _
  | install => exact List.forall_mem_nil _

/-- The events of a step that was not answered well are a round. -/
theorem tried_eq_events {step : Step} {outcome : Outcome}
    (h : outcome.report.answer ≠ .ok true) :
    tried o step outcome = Round.events o ⟨step, outcome⟩ := by
  rw [Round.events, Round.report_of_not_well h, List.append_nil]

/-- The events of a step that was answered well are a round. -/
theorem finished_eq_events {step : Step} {outcome : Outcome}
    (h : outcome.report.answer = .ok true) :
    finished o step outcome = Round.events o ⟨step, outcome⟩ := by
  rw [Round.events, Round.report_of_well h]
  rfl

/-- **A passage goes in rounds**, by induction on the passage. -/
theorem Passage.inRounds (h : Passage o p steps es result) {all : List Step} (sub : steps ⊆ all) :
    InRounds o all es := by
  induction h with
  | done => exact .nil
  | @refused step rest outcome fault answer =>
    rw [tried_eq_events (answer ▸ nofun), ← List.append_nil (Round.events _ _)]
    exact .round (sub List.mem_cons_self) .nil
  | @failed step rest outcome es e answer looked =>
    rw [tried_eq_events (answer ▸ nofun)]
    exact .round (sub List.mem_cons_self) (inRounds_of_apart fun x hx => (looked.apart x hx).1)
  | succeeded answer next ih =>
    rw [finished_eq_events answer]
    exact .round (sub List.mem_cons_self) (ih fun s hs => sub (List.mem_cons_of_mem _ hs))

/-- A passage does not say that all is done. -/
theorem Passage.done_not_mem (h : Passage o p steps es result) : Event.told .done ∉ es := by
  induction h with
  | done => exact List.not_mem_nil
  | refused => simp [tried]
  | @failed step rest outcome es e answer looked =>
    have hlooked : Event.told .done ∉ es := fun hmem => (looked.apart _ hmem).2 rfl
    simp [tried, hlooked]
  | succeeded answer next ih => simp [finished, tried, ih]

/-- More events do not undo that configuring failed. -/
theorem ConfigureFailed.mono {more : List Event} (h : ConfigureFailed es)
    (sub : calls es ⊆ calls more) : ConfigureFailed more := by
  obtain ⟨c, hc, failed⟩ := h
  exact ⟨c, sub hc, failed⟩

/-- **The hints of a passage**: there are none, and the build does not end for a configure step that
failed, or it does, and only what is looked into behind that step gives hints. -/
theorem Passage.hinted (h : Passage o p steps es result)
    (stages : ∀ s ∈ steps, s.stage = .configure ↔ ∃ q, s.command = .configure q) :
    (hints es = [] ∧ result ≠ .error .configureFailed) ∨
      ∃ front looked e, es = front ++ looked ∧ hints front = [] ∧ ConfigureFailed front ∧
        Diagnosis o p .configure looked e ∧ result = .error e := by
  induction h with
  | done => exact .inl ⟨rfl, nofun⟩
  | refused => exact .inl ⟨rfl, nofun⟩
  | @failed step rest outcome es e answer looked =>
    by_cases hstage : step.stage = .configure
    · refine .inr ⟨_, es, e, rfl, rfl, ?_, hstage ▸ looked, rfl⟩
      rw [← List.append_nil (tried o step outcome), configureFailed_tried]
      exact .inl ⟨(stages step List.mem_cons_self).mp hstage, answer⟩
    · refine .inl ⟨?_, fun he => ?_⟩
      · rw [looked.eq_nil hstage]
        rfl
      · obtain rfl := Except.error.inj he
        exact hstage (looked.blames.unique .configureFailed).1
  | @succeeded step rest outcome es result answer next ih =>
    rcases ih fun s hs => stages s (List.mem_cons_of_mem _ hs) with ⟨hnone, hresult⟩ |
      ⟨front, looked, e, rfl, hfront, hfailed, hlooked, hresult⟩
    · exact .inl ⟨hnone, hresult⟩
    · refine .inr ⟨finished o step outcome ++ front, looked, e, (List.append_assoc _ _ _).symm,
        hfront, hfailed.mono ?_, hlooked, hresult⟩
      rw [calls_append]
      exact List.subset_append_right _ _

/-! ## Traces -/

/-- **A trace is cut** into what comes before all stages, a passage for the preset settled on or
nothing, and the closing word. -/
theorem Trace.cut (h : Trace o es result) : ∃ before back, es = before ++ back ++ closing result ∧
    (∀ x ∈ before, x.ofStage = false ∧ x ≠ .told .done ∧ x.hint? = none) ∧
    ((back = [] ∧ result ≠ .error .configureFailed) ∨
      ∃ p, o.settled es = some p ∧ Passage o p (o.plan p) back result) := by
  cases h with
  | @mk opening acting result first then_ =>
    have hopening : ∀ x ∈ opening, x.ofStage = false ∧ x ≠ .told .done ∧ x.hint? = none := by
      cases first with
      | @listed found wanted =>
        refine List.forall_mem_cons.mpr ⟨⟨rfl, nofun, rfl⟩, List.forall_mem_cons.mpr
          ⟨⟨rfl, nofun, rfl⟩, fun x hx => ?_⟩⟩
        obtain ⟨q, -, rfl⟩ := List.mem_map.mp hx
        exact ⟨rfl, nofun, rfl⟩
      | unlisted => exact List.forall_mem_nil _
    cases then_ with
    | idle action =>
      exact ⟨opening, [], rfl, hopening, .inl ⟨rfl, nofun⟩⟩
    | @unresolved found action unnamed empty =>
      refine ⟨opening ++ [.queried found], [], by rw [List.append_nil], ?_, .inl ⟨rfl, nofun⟩⟩
      exact List.forall_mem_append.mpr
        ⟨hopening, List.forall_mem_singleton.mpr ⟨rfl, nofun, rfl⟩⟩
    | @named p _ _ action name passage =>
      exact ⟨opening, acting, rfl, hopening, .inr ⟨p, settled_of_named name, passage⟩⟩
    | @default found p ps back _ action unnamed head passage =>
      refine ⟨opening ++ [.queried found, .told (.defaulting p)], back, ?_, ?_,
        .inr ⟨p, ?_, passage⟩⟩
      · simp only [List.append_assoc, List.cons_append, List.nil_append]
      · exact List.forall_mem_append.mpr ⟨hopening, List.forall_mem_cons.mpr
          ⟨⟨rfl, nofun, rfl⟩, List.forall_mem_singleton.mpr ⟨rfl, nofun, rfl⟩⟩⟩
      · rw [List.append_assoc]
        exact first.settled_default unnamed head _

/-- The closing word belongs to no stage. -/
theorem closing_apart (answer : Except BuildError Unit) :
    ∀ x ∈ closing answer, x.ofStage = false := by
  cases answer with
  | error e => exact List.forall_mem_nil _
  | ok u => exact List.forall_mem_singleton.mpr rfl

/-- **A trace goes in rounds**, for the steps that are ahead. -/
theorem Trace.inRounds (h : Trace o es result) : InRounds o (o.ahead es) es := by
  obtain ⟨before, back, hes, hbefore, hback⟩ := h.cut
  have hrounds : InRounds o (o.ahead es) back := by
    rcases hback with ⟨rfl, -⟩ | ⟨p, hp, passage⟩
    · exact .nil
    · rw [Options.ahead, hp, Option.elim_some, ← plan_eq_agenda]
      exact passage.inRounds (List.Subset.refl _)
  have hwhole := ((inRounds_of_apart fun x hx => (hbefore x hx).1).append hrounds).append
    (inRounds_of_apart (closing_apart result))
  rwa [← hes] at hwhole

/-- **A trace says that all is done** exactly if it is, once and last. -/
theorem Trace.done (h : Trace o es result) : ∃ front, es = front ++ closing result ∧
    Event.told .done ∉ front := by
  obtain ⟨before, back, hes, hbefore, hback⟩ := h.cut
  refine ⟨before ++ back, hes, fun hmem => ?_⟩
  rcases List.mem_append.mp hmem with hmem | hmem
  · exact (hbefore _ hmem).2.1 rfl
  · rcases hback with ⟨rfl, -⟩ | ⟨p, -, passage⟩
    · cases hmem
    · exact passage.done_not_mem hmem

theorem hints_closing (answer : Except BuildError Unit) : hints (closing answer) = [] := by
  cases answer <;> rfl

/-- A notice that is no hint among events without one. -/
theorem not_mem_of_hints_eq_nil {n : Notice} (none : hints es = []) (hint : n.severity = .hint) :
    Event.told n ∉ es := by
  intro hmem
  have hn : Event.hint? (.told n) = some n := if_pos hint
  rw [List.filterMap_eq_nil_iff.mp none _ hmem] at hn
  cases hn

/-- What is looked into a failed configure step with gives a hint at most, and where no reason is
found, one if output was hidden. -/
theorem Diagnosis.hints_eq {e : BuildError} (h : Diagnosis o p .configure es e) :
    (e = .configureFailed ∧ hints es = (Notice.failureHint o.output).toList) ∨
      (e = .unknownPreset p ∧ (hints es).length ≤ 1) := by
  cases h with
  | known member =>
    refine .inl ⟨rfl, ?_⟩
    cases o.output <;> rfl
  | @unknown found again missing =>
    refine .inr ⟨rfl, ?_⟩
    show (hints (hinted (Notice.unknownPresetHint again.presets))).length ≤ 1
    cases again.presets with
    | nil => exact Nat.zero_le 1
    | cons q qs => exact Nat.le_refl 1

/-- Without a hint, the hints are in place wherever none is due. -/
theorem hintsInPlace_of_hintless (none : hints es = []) (undue : result ≠ .error .configureFailed) :
    HintsInPlace o es result := by
  constructor
  case ended => exact fun hne => absurd none hne
  case once => rw [none]; exact Nat.zero_le 1
  case behind =>
    intro before n after split hint
    refine absurd ?_ (not_mem_of_hints_eq_nil none hint)
    rw [split]
    exact List.mem_append_right _ List.mem_cons_self
  case hidden => exact fun he => absurd he undue

/-- **Behind a configure step that failed, the hints are in place** if they are those of looking
into it. -/
theorem Diagnosis.hintsInPlace {front looked : List Event} {e : BuildError}
    (h : Diagnosis o p .configure looked e) (quiet : hints front = [])
    (failed : ConfigureFailed front) : HintsInPlace o (front ++ looked) (.error e) := by
  have hhints : hints (front ++ looked) = hints looked := by
    rw [hints_append, quiet, List.nil_append]
  constructor
  case ended =>
    intro _
    rcases h.hints_eq with ⟨rfl, -⟩ | ⟨rfl, -⟩
    · exact .inl rfl
    · exact .inr ⟨p, rfl⟩
  case once =>
    rw [hhints]
    rcases h.hints_eq with ⟨-, hlist⟩ | ⟨-, hlength⟩
    · rw [hlist]
      exact Option.length_toList_le
    · exact hlength
  case behind =>
    intro before n after split hint
    rcases append_eq_append_cons split with ⟨more, rfl, -⟩ | ⟨more, rfl, -⟩
    · refine failed.mono ?_
      rw [calls_append]
      exact List.subset_append_left _ _
    · exact absurd (List.mem_append_right _ List.mem_cons_self)
        (not_mem_of_hints_eq_nil quiet hint)
  case hidden =>
    intro he
    obtain rfl := Except.error.inj he
    rcases h.hints_eq with ⟨-, hlist⟩ | ⟨he, -⟩
    · rw [hhints, hlist]
      cases o.output with
      | inherit => exact iff_of_false (fun h => h rfl) nofun
      | silent => exact iff_of_true nofun rfl
    · cases he

/-- **The hints of a trace are in place.** -/
theorem Trace.hintsInPlace (h : Trace o es result) : HintsInPlace o es result := by
  obtain ⟨before, back, hes, hbefore, hback⟩ := h.cut
  have hnone : hints before = [] := List.filterMap_eq_nil_iff.mpr fun x hx => (hbefore x hx).2.2
  have hhints : hints es = hints back := by
    rw [hes, hints_append, hints_append, hnone, hints_closing, List.append_nil, List.nil_append]
  rcases hback with ⟨rfl, hresult⟩ | ⟨p, -, passage⟩
  · exact hintsInPlace_of_hintless hhints hresult
  rcases passage.hinted fun s hs => plan_stage_iff hs with ⟨hempty, hresult⟩ |
    ⟨front, looked, e, rfl, hfront, hfailed, hlooked, rfl⟩
  · exact hintsInPlace_of_hintless (hhints.trans hempty) hresult
  · have hquiet : hints (before ++ front) = [] := by
      rw [hints_append, hnone, hfront]
      rfl
    have hmore : ConfigureFailed (before ++ front) := by
      refine hfailed.mono ?_
      rw [calls_append]
      exact List.subset_append_right _ _
    rw [hes, closing, List.append_nil, ← List.append_assoc]
    exact hlooked.hintsInPlace hquiet hmore

/-- **The words of a trace are in place.** -/
theorem Trace.brackets (h : Trace o es result) : Brackets o es result := by
  have hrounds := h.inRounds
  obtain ⟨front, hes, hfront⟩ := h.done
  constructor
  case called =>
    intro before c output outcome after split
    obtain ⟨r, earlier, inside, behind, rear, hstep, place, rfl, rfl, hearlier, hrear⟩ :=
      hrounds.split split rfl
    cases place with
    | call =>
      refine ⟨r.step.stage, hstep, ⟨earlier, rfl, hearlier.getLast?_ne⟩, fun well => ?_,
        fun hnext => ?_⟩
      · rw [Round.report_of_well well]
        exact ⟨_, rear, rfl, hrear.head?_ne⟩
      · by_cases well : r.outcome.report.answer = .ok true
        · exact well
        · obtain ⟨took, later, hlater, -⟩ := hnext
          rw [Round.report_of_not_well well] at hlater
          exact absurd (congrArg List.head? hlater) (hrear.head?_ne r.step.stage took)
  case announced =>
    intro before stage after split
    obtain ⟨r, earlier, inside, behind, rear, hstep, place, rfl, rfl, -⟩ := hrounds.split split rfl
    cases place with
    | start => exact ⟨r.step.command, o.output, r.outcome, r.report ++ rear, hstep, rfl⟩
  case reported =>
    intro before stage took after split
    obtain ⟨r, earlier, inside, behind, rear, hstep, place, rfl, rfl, -⟩ := hrounds.split split rfl
    cases place with
    | report well => exact ⟨r.step.command, o.output, r.outcome, earlier, hstep, well, rfl, rfl⟩
  case done_iff =>
    rw [hes, List.mem_append]
    cases result with
    | error e => exact iff_of_false (fun hmem => hmem.elim hfront List.not_mem_nil) nofun
    | ok u => exact iff_of_true (.inr List.mem_cons_self) rfl
  case doneLast =>
    intro before after split
    rw [hes] at split
    rcases append_eq_append_cons split with ⟨more, rfl, hclosing⟩ | ⟨more, rfl, -⟩
    · cases result with
      | error e =>
        exact absurd hclosing.symm (List.append_ne_nil_of_right_ne_nil _ (List.cons_ne_nil _ _))
      | ok u =>
        rcases List.cons_eq_append_iff.mp hclosing with ⟨rfl, hlast⟩ | ⟨more, rfl, hnil⟩
        · rw [List.append_nil]
          exact ⟨hfront, (List.cons.inj hlast).2⟩
        · exact absurd hnil.symm (List.append_ne_nil_of_right_ne_nil _ (List.cons_ne_nil _ _))
    · exact absurd (List.mem_append_right _ List.mem_cons_self) hfront
  case hinted => exact h.hintsInPlace

/-- **The words of a build are in place**, in every world. -/
theorem build_brackets_stages (w : World σ) (o : Options) (s : σ) :
    let run := w.perform o.build s
    Brackets o run.events run.answer :=
  (build_trace w o s).brackets

end PresetBuild
