import PresetBuild.Proofs.Performance

/-!
# The parts of a build, performed

For each part of the script of a build, in any world and from any state: the events it leaves, its
answer, and the state it ends in. A part that goes one of several ways has an equation for each way,
named for the way (`perform_carryOut_refused`, `perform_carryOut_failed`, ...), with the condition
under which it is taken.

Together the equations say all that a build does. Later modules put them together and do not open
the scripts again.
-/

namespace PresetBuild

variable {σ : Type} (w : World σ) (o : Options) (p : Preset) (s : σ)

/-- A build directory is the preset's name below `builds`. -/
theorem buildDirectory_eq (p : Preset) : p.buildDirectory = "builds/" ++ p.name := rfl

/-- A preset is among others exactly if one of them has its name. -/
theorem any_name_eq_iff_mem (ps : List Preset) :
    (ps.any fun q => q.name == p.name) = true ↔ p ∈ ps := by
  rw [List.any_eq_true]
  constructor
  · intro h
    obtain ⟨q, hq, hname⟩ := h
    have heq : q = p := congrArg Preset.mk (beq_iff_eq.mp hname)
    exact heq ▸ hq
  · intro hp
    exact ⟨p, hp, beq_self_eq_true _⟩

/-- The events of a step that is tried, and of what came of its command. -/
def tried (o : Options) (step : Step) (outcome : Outcome) : List Event :=
  [.told (.started step.stage), .started step.command o.output outcome]

/-- The events of a step that ended well. -/
def finished (o : Options) (step : Step) (outcome : Outcome) : List Event :=
  tried o step outcome ++ [.told (.finished step.stage outcome.report.took)]

/-- The event of a hint, if there is one. -/
def hinted (n : Option Notice) : List Event :=
  n.toList.map .told

/-- The last events of a build: it is done, unless it failed. -/
def closing : Except BuildError Unit → List Event
  | .ok () => [.told .done]
  | .error _ => []

namespace World

/-! ## Discovery -/

theorem perform_isPreset (name : String) :
    w.perform (isPreset name) s =
      ⟨[.queried (w.query s).1], (w.query s).1.presets.any fun q => q.name == name,
        (w.query s).2⟩ := by
  rw [isPreset, perform_bind]
  rfl

/-- A preset that is named is taken without a question. -/
theorem perform_resolve_named (h : o.preset = some p) :
    w.perform o.resolve s = ⟨[], .ok p, s⟩ := by
  rw [Options.resolve, h]
  rfl

/-- Where there is no preset there is none to take. -/
theorem perform_resolve_none (h : o.preset = none) (hq : (w.query s).1.presets = []) :
    w.perform o.resolve s =
      ⟨[.queried (w.query s).1], .error .noPresets, (w.query s).2⟩ := by
  rw [Options.resolve, h]
  simp only [perform_bind, defaultPreset, perform_presets, hq]
  rfl

/-- Where there are presets and none is named, the first one is taken. -/
theorem perform_resolve_default {ps : List Preset} (h : o.preset = none)
    (hq : (w.query s).1.presets = p :: ps) :
    w.perform o.resolve s =
      ⟨[.queried (w.query s).1, .told (.defaulting p)], .ok p, (w.query s).2⟩ := by
  rw [Options.resolve, h]
  simp only [perform_bind, defaultPreset, perform_presets, hq]
  rfl

/-! ## A failed configure step -/

/-- A preset that exists: one question, and a hint where the output was hidden. -/
theorem perform_diagnose_known (h : p ∈ (w.query s).1.presets) :
    w.perform (o.diagnose p) s =
      ⟨.queried (w.query s).1 :: hinted (Notice.failureHint o.output), .configureFailed,
        (w.query s).2⟩ := by
  rw [Options.diagnose, perform_bind, perform_isPreset]
  simp only [(any_name_eq_iff_mem p _).mpr h, ↓reduceIte, perform_bind, perform_sayMaybe,
    perform_pure, Performance.behind, List.append_nil, List.singleton_append, hinted]

/-- A preset that does not exist: two questions, and a hint where the second finds any. -/
theorem perform_diagnose_unknown (h : p ∉ (w.query s).1.presets) :
    let again := w.query (w.query s).2
    w.perform (o.diagnose p) s =
      ⟨.queried (w.query s).1 :: .queried again.1 ::
          hinted (Notice.unknownPresetHint again.1.presets),
        .unknownPreset p, again.2⟩ := by
  have hany : ((w.query s).1.presets.any fun q => q.name == p.name) = false :=
    Bool.eq_false_iff.mpr fun ht => h ((any_name_eq_iff_mem p _).mp ht)
  rw [Options.diagnose, perform_bind, perform_isPreset]
  simp only [hany, Bool.false_eq_true, ↓reduceIte, perform_bind, perform_presets, perform_sayMaybe,
    perform_pure, Performance.behind, List.append_nil, List.singleton_append, hinted]

/-! ## The steps of a plan -/

theorem perform_carryOut_nil : w.perform (o.carryOut p []) s = ⟨[], .ok (), s⟩ := rfl

variable {w o s} {step : Step} (rest : List Step)

/-- A step whose program cannot be started ends the build. -/
theorem perform_carryOut_refused {fault : Fault}
    (h : (w.start step.command o.output s).1.report.answer = .error fault) :
    let tries := w.start step.command o.output s
    w.perform (o.carryOut p (step :: rest)) s =
      ⟨tried o step tries.1, .error (.notStarted step.stage fault), tries.2⟩ := by
  rw [Options.carryOut]
  simp only [perform_bind, perform_say, perform_run, h]
  rfl

/-- A step that fails ends the build once its failure is looked into. -/
theorem perform_carryOut_failed
    (h : (w.start step.command o.output s).1.report.answer = .ok false) :
    let tries := w.start step.command o.output s
    let looked := w.perform (o.failure p step.stage) tries.2
    w.perform (o.carryOut p (step :: rest)) s =
      ⟨tried o step tries.1 ++ looked.events, .error looked.answer, looked.state⟩ := by
  rw [Options.carryOut]
  simp only [perform_bind, perform_say, perform_run, h, perform_pure, Performance.behind,
    List.append_nil]
  rfl

/-- A step that ends well is reported, and the rest of the plan is carried out behind it. -/
theorem perform_carryOut_succeeded
    (h : (w.start step.command o.output s).1.report.answer = .ok true) :
    let tries := w.start step.command o.output s
    w.perform (o.carryOut p (step :: rest)) s =
      (w.perform (o.carryOut p rest) tries.2).behind (finished o step tries.1) := by
  rw [Options.carryOut]
  simp only [perform_bind, perform_say, perform_run, h, Performance.behind_behind]
  rfl

/-! ## The whole build -/

variable (w o s)

/-- The rights that an installation needs can be asked for. -/
theorem overreaches_eq_false : o.overreaches = false := by
  simp only [Options.overreaches, canElevate, Bool.not_true, Bool.and_false]

theorem perform_list_wanted (h : o.listing = true) :
    w.perform o.list s =
      ⟨.told .listing :: .queried (w.query s).1 :: (w.query s).1.presets.map .printed, (),
        (w.query s).2⟩ := by
  rw [Options.list, if_pos h]
  simp only [perform_bind, perform_say, perform_presets, perform_printAll, Performance.behind]
  rfl

theorem perform_list_unwanted (h : o.listing = false) : w.perform o.list s = ⟨[], (), s⟩ := by
  rw [Options.list, h]
  rfl

theorem perform_act_none (h : o.action = .none) : w.perform o.act s = ⟨[], .ok (), s⟩ := by
  rw [Options.act, if_pos h]
  rfl

variable {w o p s}

/-- Without a preset nothing is carried out. -/
theorem perform_act_unresolved {e : BuildError} (h : o.action ≠ .none)
    (hr : (w.perform o.resolve s).answer = .error e) :
    w.perform o.act s =
      ⟨(w.perform o.resolve s).events, .error e, (w.perform o.resolve s).state⟩ := by
  rw [Options.act, if_neg h, overreaches_eq_false]
  simp only [Bool.false_eq_true, ↓reduceIte, perform_bind, hr, perform_pure, Performance.behind,
    List.append_nil]

/-- With a preset, the plan for it is carried out. -/
theorem perform_act_resolved (h : o.action ≠ .none)
    (hr : (w.perform o.resolve s).answer = .ok p) :
    w.perform o.act s =
      (w.perform (o.carryOut p (o.plan p)) (w.perform o.resolve s).state).behind
        (w.perform o.resolve s).events := by
  rw [Options.act, if_neg h, overreaches_eq_false]
  simp only [Bool.false_eq_true, ↓reduceIte, perform_bind, hr]

/-- **A build**: the listing, what comes after it, and the closing word. -/
theorem perform_build (w : World σ) (o : Options) (s : σ) :
    let listed := w.perform o.list s
    let acted := w.perform o.act listed.state
    w.perform o.build s =
      ⟨listed.events ++ acted.events ++ closing acted.answer, acted.answer, acted.state⟩ := by
  intro listed acted
  rw [Options.build, perform_bind, perform_bind]
  cases acted.answer with
  | error e =>
    simp only [perform_pure, Performance.behind, closing, List.append_nil]
    rfl
  | ok u =>
    simp only [perform_bind, perform_say, perform_pure, Performance.behind, closing,
      List.append_nil, List.append_assoc]
    rfl

end World

end PresetBuild
