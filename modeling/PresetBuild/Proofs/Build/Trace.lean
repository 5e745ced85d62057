import PresetBuild.Proofs.Build.Parts

/-!
# The traces of a build

A trace is the events of a build together with its answer. Which traces there can be is said here
by a grammar, one relation for each part of the script: what a failed step is looked into with
(`Diagnosis`), how steps are carried out (`Passage`), what comes of the action (`Acting`), the
listing before it (`Opening`), and the whole (`Trace`). The grammar speaks of events and of nothing
else, so what is proved from it holds in every world.

`build_trace` says that every build leaves one of these traces. The passage is the one part with an
induction, on the steps that are left. The converse, that each trace is left in some world, is not
proved: no statement needs it.
-/

namespace PresetBuild

variable {σ : Type}

/-! ## The grammar -/

/-- **What a failed step is looked into with**, and the error found. Only a failed configure step
leads to questions: one where the preset is among those found, a second one where it is not. -/
inductive Diagnosis (o : Options) (p : Preset) : Stage → List Event → BuildError → Prop
  | known {found : Discovered} (member : p ∈ found.presets) :
    Diagnosis o p .configure (.queried found :: hinted (Notice.failureHint o.output))
      .configureFailed
  | unknown {found again : Discovered} (missing : p ∉ found.presets) :
    Diagnosis o p .configure
      (.queried found :: .queried again :: hinted (Notice.unknownPresetHint again.presets))
      (.unknownPreset p)
  | build : Diagnosis o p .build [] .buildFailed
  | clean : Diagnosis o p .clean [] .cleanFailed
  | install : Diagnosis o p .install [] .installFailed

/-- **How steps are carried out**: each that ends well is followed by the next, and the first that
does not is the last. -/
inductive Passage (o : Options) (p : Preset) :
    List Step → List Event → Except BuildError Unit → Prop
  | done : Passage o p [] [] (.ok ())
  | refused {step : Step} {rest : List Step} {outcome : Outcome} {fault : Fault}
    (answer : outcome.report.answer = .error fault) :
    Passage o p (step :: rest) (tried o step outcome) (.error (.notStarted step.stage fault))
  | failed {step : Step} {rest : List Step} {outcome : Outcome} {es : List Event} {e : BuildError}
    (answer : outcome.report.answer = .ok false) (looked : Diagnosis o p step.stage es e) :
    Passage o p (step :: rest) (tried o step outcome ++ es) (.error e)
  | succeeded {step : Step} {rest : List Step} {outcome : Outcome} {es : List Event}
    {result : Except BuildError Unit} (answer : outcome.report.answer = .ok true)
    (next : Passage o p rest es result) :
    Passage o p (step :: rest) (finished o step outcome ++ es) result

/-- **What comes of the action**, behind the listing. -/
inductive Acting (o : Options) : List Event → Except BuildError Unit → Prop
  | idle (action : o.action = .none) : Acting o [] (.ok ())
  | unresolved {found : Discovered} (action : o.action ≠ .none) (unnamed : o.preset = none)
    (empty : found.presets = []) : Acting o [.queried found] (.error .noPresets)
  | named {p : Preset} {es : List Event} {result : Except BuildError Unit}
    (action : o.action ≠ .none) (name : o.preset = some p)
    (steps : Passage o p (o.plan p) es result) : Acting o es result
  | default {found : Discovered} {p : Preset} {ps : List Preset} {es : List Event}
    {result : Except BuildError Unit} (action : o.action ≠ .none) (unnamed : o.preset = none)
    (first : found.presets = p :: ps) (steps : Passage o p (o.plan p) es result) :
    Acting o (.queried found :: .told (.defaulting p) :: es) result

/-- **The listing**, where it is wanted. -/
inductive Opening (o : Options) : List Event → Prop
  | listed {found : Discovered} (wanted : o.listing = true) :
    Opening o (.told .listing :: .queried found :: found.presets.map .printed)
  | unlisted (unwanted : o.listing = false) : Opening o []

/-- **The traces of a build.** -/
inductive Trace (o : Options) : List Event → Except BuildError Unit → Prop
  | mk {opening acting : List Event} {result : Except BuildError Unit} (first : Opening o opening)
    (then_ : Acting o acting result) : Trace o (opening ++ acting ++ closing result) result

/-! ## The calls of a trace -/

variable {o : Options} {p : Preset} {es : List Event}

theorem calls_told_all (ns : List Notice) : calls (ns.map .told) = [] := by
  induction ns with
  | nil => rfl
  | cons n ns ih => exact ih

@[simp] theorem calls_hinted (n : Option Notice) : calls (hinted n) = [] :=
  calls_told_all n.toList

@[simp] theorem calls_closing (answer : Except BuildError Unit) : calls (closing answer) = [] := by
  cases answer <;> rfl

@[simp] theorem calls_tried (o : Options) (step : Step) (outcome : Outcome) :
    calls (tried o step outcome) = [⟨step.command, o.output, outcome.report.answer⟩] := rfl

@[simp] theorem calls_finished (o : Options) (step : Step) (outcome : Outcome) :
    calls (finished o step outcome) = [⟨step.command, o.output, outcome.report.answer⟩] := rfl

/-- Looking into a failed step runs nothing. -/
theorem Diagnosis.calls_eq_nil {stage : Stage} {e : BuildError} (h : Diagnosis o p stage es e) :
    calls es = [] := by
  cases h <;> simp only [calls_queried, calls_hinted, calls_nil]

/-- The listing runs nothing. -/
theorem Opening.calls_eq_nil (h : Opening o es) : calls es = [] := by
  cases h with
  | listed =>
    rw [calls_told, calls_queried]
    exact List.append_nil (List.map _ _) ▸ calls_printed _ []
  | unlisted => rfl

/-! ## Where an event stands -/

/-- An element of two lists put together stands in the first or in the second of them. -/
theorem append_eq_append_cons {α : Type} {xs ys before after : List α} {a : α}
    (h : xs ++ ys = before ++ a :: after) :
    (∃ more, before = xs ++ more ∧ ys = more ++ a :: after) ∨
      ∃ more, xs = before ++ a :: more ∧ after = more ++ ys := by
  rcases List.append_eq_append_iff.mp h with ⟨more, hbefore, hys⟩ | ⟨more, hxs, hrest⟩
  · exact .inl ⟨more, hbefore, hys⟩
  · cases more with
    | nil => exact .inl ⟨[], by rw [hxs, List.append_nil, List.append_nil], hrest.symm⟩
    | cons b more =>
      obtain ⟨rfl, hafter⟩ := List.cons.inj hrest
      exact .inr ⟨more, hxs, hafter⟩

/-- Events without a call stand wholly before any call behind them. -/
theorem split_at_call {quiet rest before after : List Event} {c : Command} {output : Output}
    {outcome : Outcome} (none : calls quiet = [])
    (split : quiet ++ rest = before ++ .started c output outcome :: after) :
    ∃ more, before = quiet ++ more ∧ rest = more ++ .started c output outcome :: after := by
  rcases append_eq_append_cons split with h | ⟨more, rfl, -⟩
  · exact h
  · rw [calls_append, calls_started] at none
    exact absurd none (List.append_ne_nil_of_right_ne_nil _ (List.cons_ne_nil _ _))

/-! ## Builds leave traces -/

variable (w : World σ) (o : Options) (p : Preset)

theorem failure_diagnosis (stage : Stage) (s : σ) :
    let run := w.perform (o.failure p stage) s
    Diagnosis o p stage run.events run.answer := by
  cases stage with
  | configure =>
    show Diagnosis o p .configure (w.perform (o.diagnose p) s).events
      (w.perform (o.diagnose p) s).answer
    by_cases h : p ∈ (w.query s).1.presets
    · rw [World.perform_diagnose_known w o p s h]
      exact .known h
    · rw [World.perform_diagnose_unknown w o p s h]
      exact .unknown h
  | build => exact .build
  | clean => exact .clean
  | install => exact .install

/-- **Steps carried out are a passage**, by induction on the steps. -/
theorem carryOut_passage (steps : List Step) (s : σ) :
    let run := w.perform (o.carryOut p steps) s
    Passage o p steps run.events run.answer := by
  induction steps generalizing s with
  | nil =>
    intro run
    rw [show run = _ from World.perform_carryOut_nil w o p s]
    exact .done
  | cons step rest ih =>
    intro run
    cases h : (w.start step.command o.output s).1.report.answer with
    | error fault =>
      have hrun := World.perform_carryOut_refused p rest h
      rw [show run = _ from hrun]
      exact .refused h
    | ok well =>
      cases well with
      | false =>
        have hrun := World.perform_carryOut_failed p rest h
        rw [show run = _ from hrun]
        exact .failed h (failure_diagnosis w o p step.stage _)
      | true =>
        have hrun := World.perform_carryOut_succeeded p rest h
        rw [show run = _ from hrun]
        exact .succeeded h (ih _)

theorem act_acting (s : σ) :
    let run := w.perform o.act s
    Acting o run.events run.answer := by
  intro run
  by_cases ha : o.action = .none
  · rw [show run = _ from World.perform_act_none w o s ha]
    exact .idle ha
  · cases hp : o.preset with
    | some p =>
      have hres := World.perform_resolve_named w o p s hp
      have hrun := World.perform_act_resolved ha (congrArg Performance.answer hres)
      rw [hres] at hrun
      rw [show run = _ from hrun]
      exact .named ha hp (carryOut_passage w o p _ _)
    | none =>
      cases hq : (w.query s).1.presets with
      | nil =>
        have hres := World.perform_resolve_none w o s hp hq
        have hrun := World.perform_act_unresolved ha (congrArg Performance.answer hres)
        rw [hres] at hrun
        rw [show run = _ from hrun]
        exact .unresolved ha hp hq
      | cons p ps =>
        have hres := World.perform_resolve_default w o p s hp hq
        have hrun := World.perform_act_resolved ha (congrArg Performance.answer hres)
        rw [hres] at hrun
        rw [show run = _ from hrun]
        exact .default ha hp hq (carryOut_passage w o p _ _)

theorem list_opening (s : σ) : Opening o (w.perform o.list s).events := by
  cases h : o.listing with
  | true =>
    rw [World.perform_list_wanted w o s h]
    exact .listed h
  | false =>
    rw [World.perform_list_unwanted w o s h]
    exact .unlisted h

/-- **Every build leaves a trace of the grammar.** -/
theorem build_trace (s : σ) :
    let run := w.perform o.build s
    Trace o run.events run.answer := by
  intro run
  rw [show run = _ from World.perform_build w o s]
  exact .mk (list_opening w o s) (act_acting w o _)

end PresetBuild
