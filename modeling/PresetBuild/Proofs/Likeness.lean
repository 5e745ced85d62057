import Mathlib.Data.List.Forall2
import PresetBuild.CommandLine
import PresetBuild.Proofs.Performance
import PresetBuild.Rehearsal

/-!
# Runs that differ in their times alone

Two runs of one build may take different times, and a notice says so. Everything else that a build
does hangs on the presets found and on how the commands came out, never on how long they took. Here
this is a relation on scripts (`Script.Alike`): alike scripts ask the same, run the same and say the
same but for times, and stay alike behind equal findings and equal answers of commands, whatever the
times. A build is alike to itself (`build_timeless`).

The relation serves to compare two worlds. Where equal questions and equal commands come out alike
in both, alike scripts leave alike events (`World.Alike.perform`), and alike events have the same
calls, the same findings, the same standard output, and the same standard error once the times are
struck out. The worlds may have states of different types; how the states correspond is a parameter.
-/

namespace PresetBuild

variable {σ τ α β γ δ : Type}

/-! ## Times struck out -/

/-- **A notice with its time struck out.** -/
def Notice.untimed : Notice → Notice
  | .finished stage _ => .finished stage ⟨0⟩
  | n => n

/-- **An event with its time struck out**, as far as the script says it. -/
def Event.untimed : Event → Event
  | .told n => .told n.untimed
  | e => e

/-! ## Scripts -/

/-- **Scripts that are alike but for times**, and whose answers are related. -/
inductive Script.Alike (R : α → β → Prop) : Script α → Script β → Prop
  | done {a : α} {b : β} (answer : R a b) : Alike R (.done a) (.done b)
  | query {k : List Preset → Script α} {l : List Preset → Script β}
      (next : ∀ ps, Alike R (k ps) (l ps)) : Alike R (.query k) (.query l)
  | start {c : Command} {output : Output} {k : Report → Script α} {l : Report → Script β}
      (next : ∀ r r', r.answer = r'.answer → Alike R (k r) (l r')) :
      Alike R (.start c output k) (.start c output l)
  | tell {n n' : Notice} {x : Script α} {y : Script β} (same : n.untimed = n'.untimed)
      (next : Alike R x y) : Alike R (.tell n x) (.tell n' y)
  | print {p : Preset} {x : Script α} {y : Script β} (next : Alike R x y) :
      Alike R (.print p x) (.print p y)

/-- **A script that heeds no time**: it is alike to itself. -/
def Script.Timeless (x : Script α) : Prop :=
  x.Alike Eq x

namespace Script

variable {R : α → β → Prop} {S : γ → δ → Prop}

/-- **Alike scripts with alike ones behind them are alike.** -/
theorem Alike.bind {x : Script α} {y : Script β} {f : α → Script γ} {g : β → Script δ}
    (h : x.Alike R y) (next : ∀ a b, R a b → (f a).Alike S (g b)) :
    Alike S (x >>= f) (y >>= g) := by
  show Alike S (x.bind f) (y.bind g)
  induction h with
  | done answer => exact next _ _ answer
  | query _ ih => exact .query ih
  | start _ ih => exact .start ih
  | tell same _ ih => exact .tell same ih
  | print _ ih => exact .print ih

theorem Timeless.bind {x : Script α} {f : α → Script γ} (h : x.Timeless)
    (next : ∀ a, (f a).Timeless) : Timeless (x >>= f) := by
  apply Alike.bind h
  rintro a _ rfl
  exact next a

theorem timeless_pure (a : α) : Timeless (pure a : Script α) := .done rfl

theorem timeless_presets : presets.Timeless := .query fun _ => .done rfl

theorem timeless_say (n : Notice) : (say n).Timeless := .tell rfl (.done rfl)

theorem timeless_sayMaybe (n : Option Notice) : (sayMaybe n).Timeless := by
  cases n with
  | none => exact .done rfl
  | some n => exact timeless_say n

theorem timeless_printAll (ps : List Preset) : (printAll ps).Timeless := by
  induction ps with
  | nil => exact .done rfl
  | cons p ps ih => exact .print ih

/-- A command comes out alike with itself, but for the time that it takes. -/
theorem alike_run (c : Command) (output : Output) :
    (run c output).Alike (fun r r' => r.answer = r'.answer) (run c output) :=
  .start fun _ _ same => .done same

end Script

/-! ## Builds heed no time -/

open Script (Timeless timeless_pure timeless_presets timeless_say timeless_sayMaybe
  timeless_printAll)

variable (o : Options) (p : Preset)

theorem diagnose_timeless : (o.diagnose p).Timeless := by
  unfold Options.diagnose isPreset
  refine Timeless.bind (Timeless.bind timeless_presets fun _ => timeless_pure _) fun known => ?_
  cases known with
  | true => exact (timeless_sayMaybe _).bind fun _ => timeless_pure _
  | false =>
    exact timeless_presets.bind fun ps => (timeless_sayMaybe _).bind fun _ => timeless_pure _

theorem failure_timeless (stage : Stage) : (o.failure p stage).Timeless := by
  cases stage with
  | configure => exact diagnose_timeless o p
  | build => exact timeless_pure _
  | clean => exact timeless_pure _
  | install => exact timeless_pure _

/-- **Steps are carried out without heed of the time they take**, by induction on the steps. -/
theorem carryOut_timeless (steps : List Step) : (o.carryOut p steps).Timeless := by
  induction steps with
  | nil => exact timeless_pure _
  | cons step rest ih =>
    unfold Options.carryOut
    refine (timeless_say _).bind fun _ => ?_
    apply Script.Alike.bind (Script.alike_run step.command o.output)
    intro r r' same
    rw [← same]
    cases r.answer with
    | error fault => exact timeless_pure _
    | ok well =>
      cases well with
      | false => exact (failure_timeless o p step.stage).bind fun _ => timeless_pure _
      | true =>
        -- the notice is the one place where a time is spoken of
        refine Script.Alike.bind (R := Eq) (.tell rfl (.done rfl)) ?_
        rintro _ _ rfl
        exact ih

theorem resolve_timeless : o.resolve.Timeless := by
  unfold Options.resolve defaultPreset
  cases o.preset with
  | some p => exact timeless_pure _
  | none =>
    refine Timeless.bind (timeless_presets.bind fun ps => ?_) fun found => ?_
    · cases ps with
      | nil => exact timeless_pure _
      | cons p ps => exact timeless_pure _
    · cases found with
      | error e => exact timeless_pure _
      | ok p => exact (timeless_say _).bind fun _ => timeless_pure _

theorem act_timeless : o.act.Timeless := by
  unfold Options.act
  split
  · exact timeless_pure _
  · split
    · exact timeless_pure _
    · refine (resolve_timeless o).bind fun found => ?_
      cases found with
      | error e => exact timeless_pure _
      | ok p => exact carryOut_timeless o p _

theorem list_timeless : o.list.Timeless := by
  unfold Options.list
  split
  · exact (timeless_say _).bind fun _ => timeless_presets.bind timeless_printAll
  · exact timeless_pure _

/-- **A build heeds no time.** -/
theorem build_timeless : o.build.Timeless := by
  unfold Options.build
  refine (list_timeless o).bind fun _ => (act_timeless o).bind fun answer => ?_
  cases answer with
  | error e => exact timeless_pure _
  | ok u => exact (timeless_say _).bind fun _ => timeless_pure _

/-! ## Worlds -/

/-- **Findings that are alike.** Where the presets were looked for does not matter. -/
structure Discovered.Alike (f g : Discovered) : Prop where
  presets : f.presets = g.presets
  stdout : f.stdout = g.stdout
  stderr : f.stderr = g.stderr

/-- Questions of rehearsals find alike where they find the same presets. -/
theorem Discovery.find_alike {d e : Discovery} {m n : Nat}
    (same : (d.find m).presets = (e.find n).presets) : (d.find m).Alike (e.find n) where
  presets := same
  stdout := (d.find_silent m).1.trans (e.find_silent n).1.symm
  stderr := (d.find_silent m).2.trans (e.find_silent n).2.symm

/-- **Outcomes that are alike but for times.** -/
structure Outcome.Alike (x y : Outcome) : Prop where
  answer : x.report.answer = y.report.answer
  stdout : x.stdout = y.stdout
  stderr : x.stderr = y.stderr

/-- **Worlds that are alike but for times**, where their states correspond as given. -/
structure World.Alike (w : World σ) (v : World τ) (T : σ → τ → Prop) : Prop where
  query : ∀ {s t}, T s t →
    (w.query s).1.Alike (v.query t).1 ∧ T (w.query s).2 (v.query t).2
  start : ∀ {s t} (c : Command) (output : Output), T s t →
    (w.start c output s).1.Alike (v.start c output t).1 ∧
      T (w.start c output s).2 (v.start c output t).2

/-- **Events that are alike but for times.** -/
inductive Event.Alike : Event → Event → Prop
  | queried {f g : Discovered} (same : f.Alike g) : Alike (.queried f) (.queried g)
  | started {c : Command} {output : Output} {x y : Outcome} (same : x.Alike y) :
      Alike (.started c output x) (.started c output y)
  | told {n n' : Notice} (same : n.untimed = n'.untimed) : Alike (.told n) (.told n')
  | printed {p : Preset} : Alike (.printed p) (.printed p)

/-- **Alike scripts in alike worlds have alike performances**: alike events, related answers and
corresponding states, by induction on the scripts. -/
theorem World.Alike.performance {w : World σ} {v : World τ} {T : σ → τ → Prop} {R : α → β → Prop}
    {x : Script α} {y : Script β} (h : w.Alike v T) (scripts : x.Alike R y) {s : σ} {t : τ}
    (states : T s t) :
    List.Forall₂ Event.Alike (w.perform x s).events (v.perform y t).events ∧
      R (w.perform x s).answer (v.perform y t).answer ∧
      T (w.perform x s).state (v.perform y t).state := by
  induction scripts generalizing s t with
  | done answer => exact ⟨.nil, answer, states⟩
  | @query k l next ih =>
    obtain ⟨hfound, hstates⟩ := h.query states
    have hleft : w.perform (.query k) s =
        (w.perform (k (v.query t).1.presets) (w.query s).2).after (.queried (w.query s).1) :=
      congrArg (fun ps => (w.perform (k ps) (w.query s).2).after (.queried (w.query s).1))
        hfound.presets
    obtain ⟨hevents, hrest⟩ := ih (v.query t).1.presets hstates
    rw [hleft]
    exact ⟨.cons (.queried hfound) hevents, hrest⟩
  | @start c output k l next ih =>
    obtain ⟨hout, hstates⟩ := h.start c output states
    obtain ⟨hevents, hrest⟩ := ih _ _ hout.answer hstates
    exact ⟨.cons (.started hout) hevents, hrest⟩
  | tell same next ih =>
    obtain ⟨hevents, hrest⟩ := ih states
    exact ⟨.cons (.told same) hevents, hrest⟩
  | print next ih =>
    obtain ⟨hevents, hrest⟩ := ih states
    exact ⟨.cons .printed hevents, hrest⟩

/-- Alike scripts in alike worlds leave alike events, and related answers. -/
theorem World.Alike.perform {w : World σ} {v : World τ} {T : σ → τ → Prop} {R : α → β → Prop}
    {x : Script α} {y : Script β} (h : w.Alike v T) (scripts : x.Alike R y) {s : σ} {t : τ}
    (states : T s t) :
    List.Forall₂ Event.Alike (w.perform x s).events (v.perform y t).events ∧
      R (w.perform x s).answer (v.perform y t).answer := by
  obtain ⟨hevents, hanswer, -⟩ := h.performance scripts states
  exact ⟨hevents, hanswer⟩

/-! ## What alike events have in common -/

variable {xs ys : List Event}

theorem calls_eq_of_alike (h : List.Forall₂ Event.Alike xs ys) : calls xs = calls ys := by
  induction h with
  | nil => rfl
  | cons first _ ih =>
    cases first with
    | queried => exact ih
    | @started c output x y same =>
      rw [calls_started, calls_started, same.answer, ih]
    | told => exact ih
    | printed => exact ih

theorem Event.Alike.stdout_eq {x y : Event} (h : x.Alike y) : x.stdout = y.stdout := by
  cases h with
  | queried same => exact same.stdout
  | started same => exact same.stdout
  | told => rfl
  | printed => rfl

theorem Event.Alike.stderr_eq {x y : Event} (h : x.Alike y) (color : Bool) :
    x.untimed.stderr color = y.untimed.stderr color := by
  cases h with
  | queried same => exact same.stderr
  | started same => exact same.stderr
  | told same =>
    show Text.Utf8.encode (Notice.line color _).toList =
      Text.Utf8.encode (Notice.line color _).toList
    rw [same]
  | printed => rfl

/-- The standard output of alike events is the same. -/
theorem stdoutOf_eq_of_alike (h : List.Forall₂ Event.Alike xs ys) : stdoutOf xs = stdoutOf ys := by
  induction h with
  | nil => rfl
  | cons first _ ih => exact congrArg₂ (· ++ ·) first.stdout_eq ih

/-- The standard error of alike events is the same, once the times are struck out. -/
theorem stderrOf_eq_of_alike (color : Bool) (h : List.Forall₂ Event.Alike xs ys) :
    stderrOf color (xs.map Event.untimed) = stderrOf color (ys.map Event.untimed) := by
  induction h with
  | nil => rfl
  | cons first _ ih => exact congrArg₂ (· ++ ·) (first.stderr_eq color) ih

end PresetBuild
