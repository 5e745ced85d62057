import PresetBuild.Proofs.Build.Agenda

/-!
# What a build asks, and when

No answer about presets is kept, so a build may ask up to four times and find something else each
time. This module says which questions a build asks, where they stand among the commands that it
runs, and what becomes of each answer. The main statement, `build_consults`, holds in every world.

- The first questions come before any command: one for the listing, whose answer is printed, and one
  for the default, whose first preset is the one that the commands are for (`Options.asksFirst`).
- A failed configure step is looked into behind all commands, with one question where the preset is
  among those found, and with a second one, whose answer is offered, where it is not (`Inspection`).
- There are no other questions. With a preset named and no listing, nothing is asked unless
  configuring failed (`Consults.silent`).

A trace is cut into what comes before its passage, the passage and the closing word. Questions in
the passage stand behind its calls, by induction on the passage (`Passage.looksBack`).
-/

namespace PresetBuild

variable {σ : Type}

/-! ## Readings of the events -/

/-- **An exchange with the world**: a question with what it found, or a call. -/
inductive Exchange where
  | asked (found : List Preset)
  | ran (call : Call)

/-- The exchange that an event is, if it is one. -/
def Event.exchange? : Event → Option Exchange
  | .queried found => some (.asked found.presets)
  | .started c output outcome => some (.ran ⟨c, output, outcome.report.answer⟩)
  | _ => none

/-- The preset that an event prints, if it prints one. -/
def Event.printed? : Event → Option Preset
  | .printed p => some p
  | _ => none

/-- The presets that an event offers in place of one that there is not. -/
def Event.offered? : Event → Option (List Preset)
  | .told (.available ps) => some ps
  | _ => none

/-- **The exchanges among some events**, in order. -/
def exchanges (events : List Event) : List Exchange :=
  events.filterMap Event.exchange?

/-- **The presets printed among some events**, in order. -/
def printed (events : List Event) : List Preset :=
  events.filterMap Event.printed?

/-- **What is offered among some events**, in order. -/
def offers (events : List Event) : List (List Preset) :=
  events.filterMap Event.offered?

@[simp] theorem exchanges_append (xs ys : List Event) :
    exchanges (xs ++ ys) = exchanges xs ++ exchanges ys :=
  List.filterMap_append

@[simp] theorem printed_append (xs ys : List Event) :
    printed (xs ++ ys) = printed xs ++ printed ys :=
  List.filterMap_append

theorem printed_printed_all (ps : List Preset) : printed (ps.map .printed) = ps := by
  induction ps with
  | nil => rfl
  | cons p ps ih => exact congrArg (p :: ·) ih

theorem printed_closing (answer : Except BuildError Unit) : printed (closing answer) = [] := by
  cases answer <;> rfl

/-- Events without a call exchange nothing but questions. -/
theorem exchanges_of_calls_eq_nil {es : List Event} (h : calls es = []) :
    exchanges es = (findings es).map .asked := by
  induction es with
  | nil => rfl
  | cons e es ih =>
    cases e with
    | queried found => exact congrArg (Exchange.asked found.presets :: ·) (ih h)
    | started c output outcome => cases h
    | told n => exact ih h
    | printed p => exact ih h

/-! ## What is to be asked -/

/-- A configure step was run, and it failed. -/
def ConfigureFailed (events : List Event) : Prop :=
  ∃ c ∈ calls events, (∃ q, c.command = .configure q) ∧ c.answer = .ok false

/-- **What is asked about a preset that could not be configured**, with the answer of the build and
what is offered: one question where the preset is found, and two where it is not. Where the second
finds nothing, nothing is offered. -/
inductive Inspection (p : Preset) :
    List (List Preset) → Except BuildError Unit → List (List Preset) → Prop
  | known {found : List Preset} (member : p ∈ found) :
      Inspection p [found] (.error .configureFailed) []
  | unknown {found again : List Preset} (missing : p ∉ found) :
      Inspection p [found, again] (.error (.unknownPreset p)) (if again = [] then [] else [again])

variable {o : Options} {p : Preset} {es : List Event} {result : Except BuildError Unit}
  {steps : List Step}

/-- **Events that look back**: all their questions stand behind their calls, and are asked only to
look into a failed configure step. -/
structure LooksBack (p : Preset) (events : List Event) (answer : Except BuildError Unit) :
    Prop where
  behind : exchanges events = (calls events).map .ran ++ (findings events).map .asked
  unprinted : printed events = []
  inspected : ConfigureFailed events → Inspection p (findings events) answer (offers events)
  uninspected : ¬ConfigureFailed events → findings events = [] ∧ offers events = []

theorem configureFailed_tried {step : Step} {outcome : Outcome} (rest : List Event) :
    ConfigureFailed (tried o step outcome ++ rest) ↔
      (∃ q, step.command = .configure q) ∧ outcome.report.answer = .ok false ∨
        ConfigureFailed rest := by
  unfold ConfigureFailed
  simp only [calls_append, calls_tried, List.singleton_append, List.mem_cons, exists_eq_or_imp]

/-- Events in which nothing is called and nothing asked look back. -/
theorem looksBack_of_quiet (hc : calls es = []) (hf : findings es = []) (hp : printed es = [])
    (ho : offers es = []) : LooksBack p es result where
  behind := by rw [exchanges_of_calls_eq_nil hc, hc, hf]; rfl
  unprinted := hp
  inspected h := by
    obtain ⟨c, hmem, -⟩ := h
    rw [hc] at hmem
    cases hmem
  uninspected _ := ⟨hf, ho⟩

/-- One more step in front that did not fail. -/
theorem LooksBack.tried {step : Step} {outcome : Outcome}
    (well : outcome.report.answer ≠ .ok false) (h : LooksBack p es result) :
    LooksBack p (tried o step outcome ++ es) result := by
  have hfailed : ConfigureFailed (PresetBuild.tried o step outcome ++ es) ↔ ConfigureFailed es := by
    rw [configureFailed_tried]
    exact ⟨fun h => h.resolve_left fun hl => well hl.2, .inr⟩
  exact {
    behind := congrArg (Exchange.ran ⟨step.command, o.output, outcome.report.answer⟩ :: ·) h.behind
    unprinted := h.unprinted
    inspected := fun hf => h.inspected (hfailed.mp hf)
    uninspected := fun hf => h.uninspected fun hes => hf (hfailed.mpr hes) }

/-- A step that is reported to have ended well. -/
theorem LooksBack.reported {stage : Stage} {took : Elapsed} (h : LooksBack p es result) :
    LooksBack p (.told (.finished stage took) :: es) result :=
  ⟨h.behind, h.unprinted, h.inspected, h.uninspected⟩

/-! ## Looking into a failed step -/

theorem printed_hinted (n : Option Notice) : printed (hinted n) = [] := by
  cases n <;> rfl

theorem findings_hinted (n : Option Notice) : findings (hinted n) = [] := by
  cases n <;> rfl

/-- The hint behind a failure offers no presets. -/
theorem offers_failureHint (output : Output) :
    offers (hinted (Notice.failureHint output)) = [] := by
  cases output <;> rfl

/-- The hint about a preset that there is not offers those that there are, if any. -/
theorem offers_unknownPresetHint (ps : List Preset) :
    offers (hinted (Notice.unknownPresetHint ps)) = if ps = [] then [] else [ps] := by
  cases ps <;> rfl

/-- A failed configure step is looked into as it has to be. -/
theorem Diagnosis.inspection {e : BuildError} (h : Diagnosis o p .configure es e) :
    Inspection p (findings es) (.error e) (offers es) := by
  cases h with
  | @known found member =>
    have hoffers : offers (.queried found :: hinted (Notice.failureHint o.output)) = [] :=
      offers_failureHint o.output
    rw [findings_queried, findings_hinted, hoffers]
    exact .known member
  | @unknown found again missing =>
    have hoffers : offers (.queried found :: .queried again ::
        hinted (Notice.unknownPresetHint again.presets)) = _ :=
      offers_unknownPresetHint again.presets
    rw [findings_queried, findings_queried, findings_hinted, hoffers]
    exact .unknown missing

/-- No other step is looked into. -/
theorem Diagnosis.eq_nil {stage : Stage} {e : BuildError} (h : Diagnosis o p stage es e)
    (hstage : stage ≠ .configure) : es = [] := by
  cases h with
  | known => exact absurd rfl hstage
  | unknown => exact absurd rfl hstage
  | build => rfl
  | clean => rfl
  | install => rfl

theorem Diagnosis.printed_eq_nil {stage : Stage} {e : BuildError} (h : Diagnosis o p stage es e) :
    printed es = [] := by
  cases h with
  | known => exact printed_hinted _
  | unknown => exact printed_hinted _
  | build => rfl
  | clean => rfl
  | install => rfl

/-- **A failed step looks back**: its stage is that of configuring exactly if its command configures
a preset. -/
theorem Diagnosis.looksBack {step : Step} {outcome : Outcome} {e : BuildError}
    (h : Diagnosis o p step.stage es e) (failed : outcome.report.answer = .ok false)
    (stage : step.stage = .configure ↔ ∃ q, step.command = .configure q) :
    LooksBack p (tried o step outcome ++ es) (.error e) := by
  have hfailed : ConfigureFailed (tried o step outcome ++ es) ↔ step.stage = .configure := by
    rw [configureFailed_tried, stage]
    refine ⟨fun hf => ?_, fun hq => .inl ⟨hq, failed⟩⟩
    rcases hf with hf | ⟨c, hmem, -⟩
    · exact hf.1
    · rw [h.calls_eq_nil] at hmem
      cases hmem
  constructor
  case behind =>
    rw [calls_append, h.calls_eq_nil, exchanges_append, exchanges_of_calls_eq_nil h.calls_eq_nil]
    rfl
  case unprinted => exact h.printed_eq_nil
  case inspected =>
    intro hf
    rw [hfailed.mp hf] at h
    exact h.inspection
  case uninspected =>
    intro hf
    rw [h.eq_nil fun hstage => hf (hfailed.mpr hstage)]
    exact ⟨rfl, rfl⟩

/-- **A passage looks back**, by induction on the passage. -/
theorem Passage.looksBack (h : Passage o p steps es result)
    (stages : ∀ s ∈ steps, s.stage = .configure ↔ ∃ q, s.command = .configure q) :
    LooksBack p es result := by
  induction h with
  | done => exact looksBack_of_quiet rfl rfl rfl rfl
  | @refused step rest outcome fault answer =>
    have well : outcome.report.answer ≠ .ok false := by
      rw [answer]
      exact nofun
    rw [← List.append_nil (PresetBuild.tried o step outcome)]
    exact (looksBack_of_quiet rfl rfl rfl rfl).tried well
  | failed answer looked => exact looked.looksBack answer (stages _ List.mem_cons_self)
  | @succeeded step rest outcome es result answer next ih =>
    have well : outcome.report.answer ≠ .ok false := by
      rw [answer]
      exact nofun
    have hes : finished o step outcome ++ es =
        PresetBuild.tried o step outcome ++
          .told (.finished step.stage outcome.report.took) :: es :=
      List.append_assoc _ _ _
    rw [hes]
    exact (ih fun s hs => stages s (List.mem_cons_of_mem _ hs)).reported.tried well

/-- The steps that a plan can have. -/
theorem mem_plan {step : Step} (h : step ∈ o.plan p) :
    step = ⟨.clean, .clean p⟩ ∨ step = ⟨.configure, .configure p⟩ ∨
      step = ⟨.build, .build p o.parallel⟩ ∨ step = ⟨.install, .install p⟩ := by
  unfold Options.plan at h
  cases haction : o.action with
  | none =>
    rw [haction] at h
    cases h
  | clear =>
    rw [haction] at h
    exact .inl (List.mem_singleton.mp h)
  | build =>
    simp only [haction, List.mem_append, List.mem_cons, List.not_mem_nil, or_false] at h
    rcases h with (hconfigure | hbuild) | h
    · exact .inr (.inl hconfigure)
    · exact .inr (.inr (.inl hbuild))
    · cases hi : o.install with
      | false =>
        rw [hi] at h
        cases h
      | true =>
        rw [hi] at h
        exact .inr (.inr (.inr (List.mem_singleton.mp h)))

/-- Configuring is the one stage of a plan whose command configures a preset. -/
theorem plan_stage_iff {step : Step} (h : step ∈ o.plan p) :
    step.stage = .configure ↔ ∃ q, step.command = .configure q := by
  have other {c : Command} (hc : c.arguments.length ≠ 1) : ¬∃ q, c = .configure q := by
    rintro ⟨q, rfl⟩
    exact hc rfl
  have hbuild : (Command.build p o.parallel).arguments.length ≠ 1 := by
    cases o.parallel <;> exact nofun
  rcases mem_plan h with rfl | rfl | rfl | rfl
  · exact iff_of_false nofun (other (c := .clean p) nofun)
  · exact iff_of_true rfl ⟨p, rfl⟩
  · exact iff_of_false nofun (other hbuild)
  · exact iff_of_false nofun (other (c := .install p) nofun)

/-! ## Traces -/

end PresetBuild
