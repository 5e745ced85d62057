import PresetBuild.Build
import PresetBuild.World

/-!
# What a performance leaves behind

A performance of a script is its events, its answer and the state it ends in. This module says what
each small script leaves (`perform_presets`, `perform_run`, `perform_say`, ...) and how the
performance of one script behind another is put together from the two (`perform_bind`), so that no
later proof opens `World.perform`.

Two readings of the events are kept apart from the rest. The calls (`calls`) are the commands that
were run, with where their output went and how they came out; the findings (`findings`) are the
answers to the questions about presets. Both are read off the events one by one, so a performance
put together from two has the calls of the one before the calls of the other.

A world matters to a run only as far as the run asks it: worlds that agree on the commands of a run
have the same run (`World.Agree.perform`).
-/

namespace PresetBuild

variable {σ α β : Type}

/-! ## Readings of the events -/

/-- **A call**: a command that was run, where its output went, and how it came out. -/
structure Call where
  command : Command
  output : Output
  answer : Except Fault Bool

/-- The call that an event is, if it is one. -/
def Event.call? : Event → Option Call
  | .started c output outcome => some ⟨c, output, outcome.report.answer⟩
  | _ => none

/-- What was found by the question that an event is, if it is one. -/
def Event.finding? : Event → Option (List Preset)
  | .queried found => some found.presets
  | _ => none

/-- **The calls among some events**, in order. -/
def calls (events : List Event) : List Call :=
  events.filterMap Event.call?

/-- **The answers to the questions among some events**, in order. -/
def findings (events : List Event) : List (List Preset) :=
  events.filterMap Event.finding?

@[simp] theorem calls_nil : calls [] = [] := rfl

@[simp] theorem calls_append (xs ys : List Event) : calls (xs ++ ys) = calls xs ++ calls ys :=
  List.filterMap_append

@[simp] theorem calls_queried (d : Discovered) (es : List Event) :
    calls (.queried d :: es) = calls es := rfl

@[simp] theorem calls_started (c : Command) (output : Output) (outcome : Outcome)
    (es : List Event) :
    calls (.started c output outcome :: es) = ⟨c, output, outcome.report.answer⟩ :: calls es := rfl

@[simp] theorem calls_told (n : Notice) (es : List Event) : calls (.told n :: es) = calls es := rfl

@[simp] theorem calls_printed (ps : List Preset) (es : List Event) :
    calls (ps.map .printed ++ es) = calls es := by
  induction ps with
  | nil => rfl
  | cons p ps ih => exact ih

@[simp] theorem findings_nil : findings [] = [] := rfl

@[simp] theorem findings_append (xs ys : List Event) :
    findings (xs ++ ys) = findings xs ++ findings ys :=
  List.filterMap_append

@[simp] theorem findings_queried (d : Discovered) (es : List Event) :
    findings (.queried d :: es) = d.presets :: findings es := rfl

@[simp] theorem findings_started (c : Command) (output : Output) (outcome : Outcome)
    (es : List Event) : findings (.started c output outcome :: es) = findings es := rfl

@[simp] theorem findings_told (n : Notice) (es : List Event) :
    findings (.told n :: es) = findings es := rfl

@[simp] theorem findings_printed (ps : List Preset) (es : List Event) :
    findings (ps.map .printed ++ es) = findings es := by
  induction ps with
  | nil => rfl
  | cons p ps ih => exact ih

/-! ## One script behind another -/

/-- A performance with some events before it. -/
def Performance.behind (es : List Event) (r : Performance σ α) : Performance σ α :=
  { r with events := es ++ r.events }

@[simp] theorem Performance.events_behind (es : List Event) (r : Performance σ α) :
    (r.behind es).events = es ++ r.events := rfl

@[simp] theorem Performance.answer_behind (es : List Event) (r : Performance σ α) :
    (r.behind es).answer = r.answer := rfl

@[simp] theorem Performance.state_behind (es : List Event) (r : Performance σ α) :
    (r.behind es).state = r.state := rfl

@[simp] theorem Performance.behind_nil (r : Performance σ α) : r.behind [] = r := rfl

theorem Performance.behind_behind (xs ys : List Event) (r : Performance σ α) :
    (r.behind ys).behind xs = r.behind (xs ++ ys) := by
  simp only [behind, List.append_assoc]

namespace World

variable (w : World σ)

/-- **One script behind another**: the second is performed from the state the first one leaves, and
its events stand behind the first one's. -/
theorem perform_bind (x : Script α) (f : α → Script β) (s : σ) :
    w.perform (x >>= f) s =
      (w.perform (f (w.perform x s).answer) (w.perform x s).state).behind
        (w.perform x s).events := by
  show w.perform (x.bind f) s = _
  induction x generalizing s with
  | done a => rfl
  | query next ih => simp only [Script.bind, perform, ih]; rfl
  | start c output next ih => simp only [Script.bind, perform, ih]; rfl
  | tell n next ih => simp only [Script.bind, perform, ih]; rfl
  | print p next ih => simp only [Script.bind, perform, ih]; rfl

@[simp] theorem perform_pure (a : α) (s : σ) : w.perform (pure a) s = ⟨[], a, s⟩ := rfl

@[simp] theorem perform_presets (s : σ) :
    w.perform Script.presets s =
      ⟨[.queried (w.query s).1], (w.query s).1.presets, (w.query s).2⟩ := rfl

@[simp] theorem perform_run (c : Command) (output : Output) (s : σ) :
    w.perform (Script.run c output) s =
      ⟨[.started c output (w.start c output s).1], (w.start c output s).1.report,
        (w.start c output s).2⟩ := rfl

@[simp] theorem perform_say (n : Notice) (s : σ) :
    w.perform (Script.say n) s = ⟨[.told n], (), s⟩ := rfl

@[simp] theorem perform_sayMaybe (n : Option Notice) (s : σ) :
    w.perform (Script.sayMaybe n) s = ⟨n.toList.map .told, (), s⟩ := by
  cases n <;> rfl

@[simp] theorem perform_printAll (ps : List Preset) (s : σ) :
    w.perform (Script.printAll ps) s = ⟨ps.map .printed, (), s⟩ := by
  induction ps with
  | nil => rfl
  | cons p ps ih => rw [Script.printAll, perform, ih]; rfl

/-! ## Runs in a world -/

/-- **An event that answers** as the world does in some state, if it is a question or a command. -/
def Answers (w : World σ) : Event → Prop
  | .queried found => ∃ t, found = (w.query t).1
  | .started c output outcome => ∃ t, outcome = (w.start c output t).1
  | .told _ | .printed _ => True

/-- **Whatever a run has asked came out as the world has it in some state**, by induction on the
script. -/
theorem answers_of_mem_perform (x : Script α) {e : Event} {s : σ}
    (h : e ∈ (w.perform x s).events) : w.Answers e := by
  induction x generalizing s with
  | done a => cases h
  | query next ih =>
    rcases List.mem_cons.mp h with rfl | hmem
    · exact ⟨s, rfl⟩
    · exact ih _ hmem
  | start c output next ih =>
    rcases List.mem_cons.mp h with rfl | hmem
    · exact ⟨s, rfl⟩
    · exact ih _ hmem
  | tell n next ih =>
    rcases List.mem_cons.mp h with rfl | hmem
    · trivial
    · exact ih hmem
  | print p next ih =>
    rcases List.mem_cons.mp h with rfl | hmem
    · trivial
    · exact ih hmem

/-- **Worlds that agree** on some commands in some states: they answer the same there, and stay in
such states. -/
structure Agree (w v : World σ) (P : Command → Prop) (T : σ → Prop) : Prop where
  query : ∀ {s}, T s → w.query s = v.query s ∧ T (w.query s).2
  start : ∀ {s} {c : Command} (output : Output), P c → T s →
    w.start c output s = v.start c output s ∧ T (w.start c output s).2

/-- **Worlds that agree on what a run starts have the same run**, by induction on the script. -/
theorem Agree.perform {w v : World σ} {P : Command → Prop} {T : σ → Prop} (h : w.Agree v P T)
    (x : Script α) {s : σ} (state : T s)
    (started : ∀ call ∈ calls (w.perform x s).events, P call.command) :
    w.perform x s = v.perform x s ∧ T (w.perform x s).state := by
  induction x generalizing s with
  | done a => exact ⟨rfl, state⟩
  | query next ih =>
    obtain ⟨hsame, hstate⟩ := h.query state
    obtain ⟨hrun, hlast⟩ := ih (w.query s).1.presets hstate started
    refine ⟨?_, hlast⟩
    simp only [World.perform, ← hsame, hrun]
  | start c output next ih =>
    obtain ⟨hsame, hstate⟩ := h.start output (started _ List.mem_cons_self) state
    obtain ⟨hrun, hlast⟩ := ih (w.start c output s).1.report hstate fun call hcall =>
      started call (List.mem_cons_of_mem _ hcall)
    refine ⟨?_, hlast⟩
    simp only [World.perform, ← hsame, hrun]
  | tell n next ih =>
    obtain ⟨hrun, hlast⟩ := ih state started
    exact ⟨congrArg (Performance.after (.told n)) hrun, hlast⟩
  | print p next ih =>
    obtain ⟨hrun, hlast⟩ := ih state started
    exact ⟨congrArg (Performance.after (.printed p)) hrun, hlast⟩

end World

end PresetBuild
