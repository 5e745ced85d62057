import PresetBuild.Machine
import PresetBuild.Proofs.Build.Trace

/-!
# What a session holds

A session of a machine holds the programs that were started, while the events of a script say what
was asked of the machine. `Kept` ties the two together, event by event: a notice and a printed name
leave the session as it is, a question may add listings and nothing else, and a command adds what
was started for it, or nothing where it was refused. `perform_kept` says that every script run on a
machine, from every session, is tied in this way.

The relation is read backwards: from the events of a passage and the session behind it, one step at
a time (`Passage.kept_cons`), what was started, how it ended, and in which session.
-/

namespace PresetBuild

/-- Programs that were started to list the presets, and for nothing else. -/
def OnlyListings (calls : List (List String)) : Prop :=
  ∀ argv ∈ calls, argv = Command.listPresets.argv

theorem onlyListings_nil : OnlyListings [] := nofun

theorem OnlyListings.append {xs ys : List (List String)} (hx : OnlyListings xs)
    (hy : OnlyListings ys) : OnlyListings (xs ++ ys) := by
  intro argv h
  rcases List.mem_append.mp h with h | h
  · exact hx argv h
  · exact hy argv h

/-- **What events leave in a session** of a machine, by the programs started before and after. -/
inductive Kept (m : Machine) : List (List String) → List Event → List (List String) → Prop
  | nil {calls : List (List String)} : Kept m calls [] calls
  | told {earlier later : List (List String)} {n : Notice} {es : List Event}
      (next : Kept m earlier es later) : Kept m earlier (.told n :: es) later
  | printed {earlier later : List (List String)} {p : Preset} {es : List Event}
      (next : Kept m earlier es later) : Kept m earlier (.printed p :: es) later
  | queried {earlier more later : List (List String)} {found : Discovered} {es : List Event}
      (listings : OnlyListings more) (next : Kept m (earlier ++ more) es later) :
      Kept m earlier (.queried found :: es) later
  | refused {earlier later : List (List String)} {c : Command} {output : Output} {fault : Fault}
      {es : List Event} (launch : m.launch ⟨earlier⟩ c = .error fault)
      (next : Kept m earlier es later) :
      Kept m earlier (.started c output (Machine.outcomeOf output (.error fault)) :: es) later
  | started {earlier later : List (List String)} {c : Command} {output : Output}
      {ended : Finished} {es : List Event} (launch : m.launch ⟨earlier⟩ c = .ok ended)
      (next : Kept m (earlier ++ [c.argv]) es later) :
      Kept m earlier (.started c output (Machine.outcomeOf output (.ok ended)) :: es) later

variable {m : Machine} {earlier later : List (List String)}

/-! ## Scripts on a machine -/

/-- A question about presets starts nothing but listings. -/
theorem query_onlyListings (m : Machine) (source : DiscoveryKind) (files : PresetFiles)
    (s : Session) :
    ∃ more, OnlyListings more ∧
      ((m.world source files).query s).2 = ⟨s.calls ++ more⟩ := by
  cases source with
  | file => exact ⟨[], onlyListings_nil, by rw [List.append_nil]; rfl⟩
  | listing =>
    show ∃ more, OnlyListings more ∧
      Machine.recorded s .listPresets (m.launch s .listPresets) = ⟨s.calls ++ more⟩
    cases m.launch s .listPresets with
    | error fault => exact ⟨[], onlyListings_nil, by rw [List.append_nil]; rfl⟩
    | ok ended =>
      exact ⟨[Command.listPresets.argv], fun argv h => List.mem_singleton.mp h, rfl⟩

/-- **A script on a machine keeps a session** that its events account for. -/
theorem perform_kept {α : Type} (m : Machine) (source : DiscoveryKind) (files : PresetFiles)
    (x : Script α) (s : Session) :
    let run := (m.world source files).perform x s
    Kept m s.calls run.events run.state.calls := by
  induction x generalizing s with
  | done a => exact .nil
  | tell n next ih => exact .told (ih s)
  | print p next ih => exact .printed (ih s)
  | query next ih =>
    obtain ⟨more, hmore, hstate⟩ := query_onlyListings m source files s
    have hnext := ih ((m.world source files).query s).1.presets ((m.world source files).query s).2
    refine .queried hmore ?_
    rw [hstate] at hnext
    show Kept m (s.calls ++ more) _
      ((m.world source files).perform (next _) ((m.world source files).query s).2).state.calls
    rw [hstate]
    exact hnext
  | start c output next ih =>
    have hnext (l : Except Fault Finished) :=
      ih (Machine.outcomeOf output l).report (Machine.recorded s c l)
    show Kept m s.calls (.started c output (Machine.outcomeOf output (m.launch s c)) ::
        ((m.world source files).perform (next (Machine.outcomeOf output (m.launch s c)).report)
          (Machine.recorded s c (m.launch s c))).events)
      ((m.world source files).perform (next (Machine.outcomeOf output (m.launch s c)).report)
        (Machine.recorded s c (m.launch s c))).state.calls
    cases h : m.launch s c with
    | error fault => exact .refused h (hnext (.error fault))
    | ok ended => exact .started h (hnext (.ok ended))

/-! ## Reading a session backwards -/

theorem Kept.append_inv {xs ys : List Event} (h : Kept m earlier (xs ++ ys) later) :
    ∃ between, Kept m earlier xs between ∧ Kept m between ys later := by
  induction xs generalizing earlier with
  | nil => exact ⟨earlier, .nil, h⟩
  | cons x xs ih =>
    cases h with
    | told next =>
      obtain ⟨between, hx, hy⟩ := ih next
      exact ⟨between, .told hx, hy⟩
    | printed next =>
      obtain ⟨between, hx, hy⟩ := ih next
      exact ⟨between, .printed hx, hy⟩
    | queried listings next =>
      obtain ⟨between, hx, hy⟩ := ih next
      exact ⟨between, .queried listings hx, hy⟩
    | refused launch next =>
      obtain ⟨between, hx, hy⟩ := ih next
      exact ⟨between, .refused launch hx, hy⟩
    | started launch next =>
      obtain ⟨between, hx, hy⟩ := ih next
      exact ⟨between, .started launch hx, hy⟩

/-- Events without a call leave only listings behind. -/
theorem Kept.of_calls_eq_nil {es : List Event} (h : Kept m earlier es later)
    (quiet : calls es = []) : ∃ more, OnlyListings more ∧ later = earlier ++ more := by
  induction h with
  | nil => exact ⟨[], onlyListings_nil, (List.append_nil _).symm⟩
  | told next ih => exact ih quiet
  | printed next ih => exact ih quiet
  | queried listings next ih =>
    obtain ⟨more, hmore, rfl⟩ := ih quiet
    exact ⟨_, listings.append hmore, List.append_assoc _ _ _⟩
  | refused launch next => cases quiet
  | started launch next => cases quiet

/-- The closing word leaves a session as it is. -/
theorem Kept.closing_inv {result : Except BuildError Unit}
    (h : Kept m earlier (closing result) later) : later = earlier := by
  cases result with
  | error e =>
    cases h with
    | nil => rfl
  | ok u =>
    cases h with
    | told next =>
      cases next with
      | nil => rfl

variable {o : Options} {p : Preset} {step : Step} {rest : List Step} {es : List Event}
  {result : Except BuildError Unit}

/-- How a command that was started ended is what is reported of it. -/
theorem outcomeOf_ok_answer (output : Output) (ended : Finished) :
    (Machine.outcomeOf output (.ok ended)).report.answer = .ok ended.status.success := by
  cases output <;> rfl

theorem success_eq_true_iff (s : Status) : s.success = true ↔ s = .exited 0 :=
  beq_iff_eq

/-- A step that is tried is refused, or it is started. -/
theorem Kept.tried_inv {outcome : Outcome} (h : Kept m earlier (tried o step outcome ++ es) later) :
    (∃ fault, m.launch ⟨earlier⟩ step.command = .error fault ∧
      outcome = Machine.outcomeOf o.output (.error fault) ∧ Kept m earlier es later) ∨
    (∃ ended, m.launch ⟨earlier⟩ step.command = .ok ended ∧
      outcome = Machine.outcomeOf o.output (.ok ended) ∧
      Kept m (earlier ++ [step.command.argv]) es later) := by
  cases h with
  | told next =>
    cases next with
    | refused launch next => exact .inl ⟨_, launch, rfl, next⟩
    | started launch next => exact .inr ⟨_, launch, rfl, next⟩

/-- Looking into a failed step leaves listings behind, and only a configure step any. -/
theorem Diagnosis.kept {stage : Stage} {e : BuildError} (h : Diagnosis o p stage es e)
    (k : Kept m earlier es later) :
    ∃ more, OnlyListings more ∧ (stage ≠ .configure → more = []) ∧ later = earlier ++ more := by
  by_cases hstage : stage = .configure
  · obtain ⟨more, hmore, hlater⟩ := k.of_calls_eq_nil h.calls_eq_nil
    exact ⟨more, hmore, fun hne => absurd hstage hne, hlater⟩
  · have hes : es = [] := by
      cases h with
      | known => exact absurd rfl hstage
      | unknown => exact absurd rfl hstage
      | build => rfl
      | clean => rfl
      | install => rfl
    subst hes
    cases k with
    | nil => exact ⟨[], onlyListings_nil, fun _ => rfl, (List.append_nil _).symm⟩

/-- The event of a step's command on a machine where some programs were started earlier. -/
def attempt (m : Machine) (o : Options) (earlier : List (List String)) (c : Command) : Event :=
  .started c o.output (Machine.outcomeOf o.output (m.launch ⟨earlier⟩ c))

/-- **A passage on a machine, one step back**: its first step is attempted. Either it was not
started, or it was started and failed, or it was started and ended with status zero, and the passage
goes on in a session that holds it. -/
theorem Passage.kept_cons (h : Passage o p (step :: rest) es result) (k : Kept m earlier es later) :
    attempt m o earlier step.command ∈ es ∧
    (later = earlier ∨
    (∃ ended more, m.launch ⟨earlier⟩ step.command = .ok ended ∧ ended.status ≠ .exited 0 ∧
      OnlyListings more ∧ (step.stage ≠ .configure → more = []) ∧
      later = earlier ++ [step.command.argv] ++ more) ∨
    (∃ ended es', m.launch ⟨earlier⟩ step.command = .ok ended ∧ ended.status = .exited 0 ∧
      es' ⊆ es ∧ Passage o p rest es' result ∧
      Kept m (earlier ++ [step.command.argv]) es' later)) := by
  have attempted {l : Except Fault Finished} (hl : m.launch ⟨earlier⟩ step.command = l)
      (more : List Event) :
      attempt m o earlier step.command ∈
        tried o step (Machine.outcomeOf o.output l) ++ more := by
    subst hl
    exact List.mem_cons_of_mem _ List.mem_cons_self
  cases h with
  | @refused _ _ outcome fault answer =>
    rw [← List.append_nil (tried o step outcome)] at k ⊢
    rcases k.tried_inv with ⟨fault', launch, rfl, next⟩ | ⟨ended, launch, rfl, next⟩
    · cases next with
      | nil => exact ⟨attempted launch _, .inl rfl⟩
    · rw [outcomeOf_ok_answer] at answer
      cases answer
  | @failed _ _ outcome looking e answer looked =>
    rcases k.tried_inv with ⟨fault', launch, rfl, next⟩ | ⟨ended, launch, rfl, next⟩
    · cases answer
    · rw [outcomeOf_ok_answer, Except.ok.injEq] at answer
      obtain ⟨more, hmore, hstill, hlater⟩ := looked.kept next
      refine ⟨attempted launch _, .inr (.inl ⟨ended, more, launch, fun h => ?_, hmore, hstill,
        hlater⟩)⟩
      rw [(success_eq_true_iff _).mpr h] at answer
      cases answer
  | @succeeded _ _ outcome after _ answer next =>
    have hes : finished o step outcome ++ after =
        tried o step outcome ++ .told (.finished step.stage outcome.report.took) :: after :=
      List.append_assoc _ _ _
    rw [hes] at k ⊢
    rcases k.tried_inv with ⟨fault', launch, rfl, k⟩ | ⟨ended, launch, rfl, k⟩
    · cases answer
    · rw [outcomeOf_ok_answer, Except.ok.injEq, success_eq_true_iff] at answer
      cases k with
      | told k =>
        refine ⟨attempted launch _, .inr (.inr ⟨ended, after, launch, answer, ?_, next, k⟩)⟩
        exact fun e he => List.mem_append_right _ (List.mem_cons_of_mem _ he)

end PresetBuild
