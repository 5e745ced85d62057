import PresetBuild.CommandLine
import PresetBuild.Proofs.Launch
import PresetBuild.Proofs.Session
import PresetBuild.Proofs.Words.Wish

/-!
# Administrator rights

The elevator is started for an installation and for nothing else, behind a configure and a build
step of the same preset that both ended with status zero, and nothing is started behind it. This
module says so of a whole command line in a project (`elevator_guarded`): of the programs started,
whatever the arguments are, whatever the tools do, and whatever the listing and the preset files
hold. Where all that is needed is there, the elevator is tried.

The argument goes down through three layers. A command line that is accepted (`Accepts`) comes to
options whose action and whose installation are read off the words and switches. The passage of a
build on a machine is followed back step by step with the session it leaves
(`Passage.elevated_inv`, `Passage.attempts_install`). A project's statuses are those of its programs
in the order in which they are started, listings aside.
-/

namespace PresetBuild

open Arguments (Given)

/-! ## Command lines that are accepted -/

/-- **A command line is accepted** as a build that gives this. -/
def Accepts (arguments : List String) (g : Given) : Prop :=
  Arguments.parse ((Argument.sort arguments).1.drop 1) = .ok g ∧ g.shell = none

/-- **What is given asks for an installation**: the install switch is set and the clear switch is
not, and the last word that is recognised, if there is one, is not `list`. -/
def AsksToInstall (g : Given) : Prop :=
  .install ∈ g.switches ∧ .clear ∉ g.switches ∧ (Word.split g.words).1.getLast? ≠ some .list

/-- The options that what is given comes to. -/
def optionsOf (g : Given) : Options :=
  .ofWords (Word.split g.words).1 (.ofSwitches g.switches)

theorem ofArguments_of_accepts {arguments : List String} {g : Given} (h : Accepts arguments g) :
    Request.ofArguments arguments =
      .build ((Argument.sort arguments).2 ++ (Word.split g.words).2) (optionsOf g) := by
  unfold Request.ofArguments
  simp only [h.1, Request.ofGiven, h.2]
  rfl

theorem accepts_of_ofArguments {arguments ignored : List String} {o : Options}
    (h : Request.ofArguments arguments = .build ignored o) :
    ∃ g, Accepts arguments g ∧ o = optionsOf g := by
  unfold Request.ofArguments at h
  cases hp : Arguments.parse ((Argument.sort arguments).1.drop 1) with
  | error stop =>
    simp only [hp] at h
    cases stop <;> cases h
  | ok g =>
    simp only [hp, Request.ofGiven] at h
    cases hs : g.shell with
    | some shell =>
      rw [hs] at h
      cases h
    | none =>
      rw [hs] at h
      cases h
      exact ⟨g, ⟨hp, hs⟩, rfl⟩

/-- Words come to a build unless the clear switch is set or `list` is the last of them. -/
theorem ofWords_action_eq_build_iff (words : List Word) (flags : Flags) :
    (Options.ofWords words flags).action = .build ↔
      flags.clear = false ∧ words.getLast? ≠ some .list := by
  rw [ofWords_eq, action_getLast?]
  cases flags.clear with
  | true => simp only [↓reduceIte, reduceCtorEq, Bool.true_eq_false, false_and]
  | false =>
    by_cases hlast : words.getLast? = some .list
    · simp [hlast]
    · simp [hlast]

theorem optionsOf_asksToInstall_iff (g : Given) :
    AsksToInstall g ↔ (optionsOf g).action = .build ∧ (optionsOf g).install = true := by
  unfold AsksToInstall optionsOf
  rw [ofWords_action_eq_build_iff]
  simp only [Options.ofWords, Flags.ofSwitches, List.contains_eq_mem, decide_eq_true_eq,
    decide_eq_false_iff_not]
  constructor
  · intro h
    obtain ⟨hi, hc, hl⟩ := h
    exact ⟨⟨hc, hl⟩, hi⟩
  · intro h
    obtain ⟨⟨hc, hl⟩, hi⟩ := h
    exact ⟨hi, hc, hl⟩

/-! ## Programs that are not the elevator -/

/-- Programs among which the elevator is not. -/
def Unelevated (calls : List (List String)) : Prop :=
  ∀ argv ∈ calls, argv.head? ≠ some elevator

theorem Unelevated.append {xs ys : List (List String)} (hx : Unelevated xs) (hy : Unelevated ys) :
    Unelevated (xs ++ ys) := by
  intro argv h
  rcases List.mem_append.mp h with h | h
  · exact hx argv h
  · exact hy argv h

theorem OnlyListings.unelevated {calls : List (List String)} (h : OnlyListings calls) :
    Unelevated calls := by
  intro argv hmem
  rw [h argv hmem]
  decide

/-- The build tool itself is not the elevator. -/
theorem unelevated_tool (arguments : List String) : Unelevated [(Command.tool arguments).argv] := by
  intro argv h
  rw [List.mem_singleton.mp h]
  show some buildTool ≠ some elevator
  decide

/-- The elevator does not stand among programs that are not it. -/
theorem Unelevated.not_split {before after : List (List String)} {argv : List String}
    (h : Unelevated (before ++ argv :: after)) : argv.head? ≠ some elevator :=
  h argv (List.mem_append_right _ List.mem_cons_self)

/-- A list is split at its last element where what it is split at stands nowhere before. -/
theorem eq_concat_of_not_mem {α : Type} {xs before after : List α} {a z : α}
    (h : xs ++ [z] = before ++ a :: after) (ha : a ∉ xs) : before = xs ∧ a = z ∧ after = [] := by
  rcases List.append_eq_append_iff.mp h with ⟨more, rfl, hz⟩ | ⟨more, rfl, hz⟩
  · cases more with
    | nil =>
      cases hz
      exact ⟨List.append_nil _, rfl, rfl⟩
    | cons x more =>
      obtain ⟨-, hnil⟩ := List.cons.inj hz
      exact absurd hnil.symm (List.append_ne_nil_of_right_ne_nil _ (List.cons_ne_nil _ _))
  · cases more with
    | nil =>
      cases hz
      exact ⟨(List.append_nil _).symm, rfl, rfl⟩
    | cons x more =>
      obtain ⟨rfl, -⟩ := List.cons.inj hz
      exact absurd (List.mem_append_right _ List.mem_cons_self) ha

/-! ## A build on a machine -/

/-- A command ends well on a machine where some programs were started earlier. -/
def EndsWell (m : Machine) (earlier : List (List String)) (c : Command) : Prop :=
  ∃ ended, m.launch ⟨earlier⟩ c = .ok ended ∧ ended.status = .exited 0

variable {m : Machine} {o : Options} {p : Preset} {es : List Event}
  {result : Except BuildError Unit} {earlier later before after : List (List String)}
  {argv : List String}

theorem plan_build (h : o.action = .build) :
    o.plan p = ⟨.configure, .configure p⟩ :: ⟨.build, .build p o.parallel⟩ ::
      if o.install then [⟨.install, .install p⟩] else [] := by
  rw [Options.plan, h]
  rfl

/-- Cleaning does not need the elevator. -/
theorem Passage.unelevated_of_clear (h : Passage o p (o.plan p) es result)
    (k : Kept m earlier es later) (ha : o.action = .clear) (he : OnlyListings earlier) :
    Unelevated later := by
  rw [Options.plan, ha] at h
  have hclean := he.unelevated.append (unelevated_tool (Command.clean p).arguments)
  obtain ⟨-, rfl | ⟨ended, more, -, -, hmore, -, rfl⟩ | ⟨ended, es', -, -, -, h', k'⟩⟩ :=
    h.kept_cons k
  · exact he.unelevated
  · exact hclean.append hmore.unelevated
  · cases h' with
    | done =>
      cases k' with
      | nil => exact hclean

/-- **Where the elevator stands among the programs of a build**, it stands at their end, for the
installation, and behind a configure and a build step of the same preset that both ended well. -/
theorem Passage.elevated_inv (h : Passage o p (o.plan p) es result) (k : Kept m earlier es later)
    (ha : o.action = .build) (he : OnlyListings earlier) (split : later = before ++ argv :: after)
    (hargv : argv.head? = some elevator) :
    o.install = true ∧ after = [] ∧ argv = (Command.install p).argv ∧
      before = earlier ++ [(Command.configure p).argv] ++ [(Command.build p o.parallel).argv] ∧
      EndsWell m earlier (.configure p) ∧
      EndsWell m (earlier ++ [(Command.configure p).argv]) (.build p o.parallel) := by
  have refuse {P : Prop} (hlater : Unelevated later) : P :=
    absurd hargv (split ▸ hlater).not_split
  have hconfigured : Unelevated (earlier ++ [(Command.configure p).argv]) :=
    he.unelevated.append (unelevated_tool _)
  have hbuilt := hconfigured.append (unelevated_tool (Command.build p o.parallel).arguments)
  rw [plan_build ha] at h
  obtain ⟨-, rfl | ⟨_, more, -, -, hmore, -, rfl⟩ | ⟨conf, es₁, hconf, hconf0, -, h₁, k₁⟩⟩ :=
    h.kept_cons k
  · exact refuse he.unelevated
  · exact refuse (hconfigured.append hmore.unelevated)
  obtain ⟨-, rfl | ⟨_, more, -, -, hmore, -, rfl⟩ | ⟨built, es₂, hbuild, hbuild0, -, h₂, k₂⟩⟩ :=
    h₁.kept_cons k₁
  · exact refuse hconfigured
  · exact refuse (hbuilt.append hmore.unelevated)
  cases hi : o.install with
  | false =>
    rw [hi] at h₂
    cases h₂ with
    | done =>
      cases k₂ with
      | nil => exact refuse hbuilt
  | true =>
    rw [hi] at h₂
    have hlater : later = earlier ++ [(Command.configure p).argv]
        ++ [(Command.build p o.parallel).argv] ∨ later = earlier ++ [(Command.configure p).argv]
        ++ [(Command.build p o.parallel).argv] ++ [(Command.install p).argv] := by
      obtain ⟨-, hsame | ⟨_, more, -, -, -, hstill, hmore⟩ | ⟨_, es₃, -, -, -, h₃, k₃⟩⟩ :=
        h₂.kept_cons k₂
      · exact .inl hsame
      · have hstage : Stage.install ≠ .configure := nofun
        rw [hstill hstage, List.append_nil] at hmore
        exact .inr hmore
      · cases h₃ with
        | done =>
          cases k₃ with
          | nil => exact .inr rfl
    rcases hlater with hlater | hlater
    · exact refuse (hlater ▸ hbuilt)
    · obtain ⟨hbefore, hlast, hafter⟩ :=
        eq_concat_of_not_mem (hlater.symm.trans split) fun hmem => hbuilt argv hmem hargv
      exact ⟨rfl, hafter, hlast, hbefore, ⟨conf, hconf, hconf0⟩, ⟨built, hbuild, hbuild0⟩⟩

/-- What is started in a passage was started before, or lists the presets, or is a command of the
steps. -/
theorem Passage.mem_kept {steps : List Step} (h : Passage o p steps es result)
    (k : Kept m earlier es later) (hmem : argv ∈ later) :
    argv ∈ earlier ∨ argv = Command.listPresets.argv ∨ ∃ s ∈ steps, argv = s.command.argv := by
  induction steps generalizing es earlier with
  | nil =>
    cases h with
    | done =>
      cases k with
      | nil => exact .inl hmem
  | cons step rest ih =>
    have started {x : List String} (hx : x ∈ earlier ++ [step.command.argv]) :
        x ∈ earlier ∨ ∃ s ∈ step :: rest, x = s.command.argv := by
      rcases List.mem_append.mp hx with hx | hx
      · exact .inl hx
      · exact .inr ⟨step, List.mem_cons_self, List.mem_singleton.mp hx⟩
    obtain ⟨-, rfl | ⟨_, more, -, -, hmore, -, rfl⟩ | ⟨_, es', -, -, -, h', k'⟩⟩ := h.kept_cons k
    · exact .inl hmem
    · rcases List.mem_append.mp hmem with hmem | hmem
      · exact (started hmem).imp_right .inr
      · exact .inr (.inl (hmore argv hmem))
    · rcases ih h' k' with hmem | hlist | ⟨s, hs, heq⟩
      · exact (started hmem).imp_right .inr
      · exact .inr (.inl hlist)
      · exact .inr (.inr ⟨s, List.mem_cons_of_mem _ hs, heq⟩)

/-- The argument that names a preset has a letter of its own behind the dashes. -/
theorem presetArgument_ne {s : String} (x : String) (h : s.toList[2]? ≠ some 'p') :
    "--preset=" ++ x ≠ s := by
  intro heq
  apply h
  rw [← heq, String.toList_append]
  rfl

theorem configure_ne_listPresets (q : Preset) :
    (Command.configure q).argv ≠ Command.listPresets.argv := by
  intro h
  exact presetArgument_ne q.name (by decide) (List.cons.inj (List.cons.inj h).2).1

theorem configure_ne_build (q p : Preset) (parallel : Bool) :
    (Command.configure q).argv ≠ (Command.build p parallel).argv := by
  intro h
  exact presetArgument_ne q.name (by decide) (List.cons.inj (List.cons.inj h).2).1

theorem build_ne_listPresets (q : Preset) (parallel : Bool) :
    (Command.build q parallel).argv ≠ Command.listPresets.argv := by
  intro h
  exact absurd (List.cons.inj (List.cons.inj h).2).1 (by decide)

/-- A preset is known by the command that configures it. -/
theorem configure_argv_inj {q p : Preset}
    (h : (Command.configure q).argv = (Command.configure p).argv) : q = p := by
  have harg : "--preset=" ++ q.name = "--preset=" ++ p.name :=
    (List.cons.inj (List.cons.inj h).2).1
  exact congrArg Preset.mk ((String.append_right_inj _).mp harg)

/-- **Where both steps of a preset were started and end well, its installation is tried** in the
session that holds them. -/
theorem Passage.attempts_install {q : Preset} {parallel : Bool}
    (h : Passage o p (o.plan p) es result) (k : Kept m earlier es later) (ha : o.action = .build)
    (hi : o.install = true) (he : OnlyListings earlier)
    (hconf : (Command.configure q).argv ∈ later) (hbuild : (Command.build q parallel).argv ∈ later)
    (hconf0 : ∀ ended, m.launch ⟨earlier⟩ (.configure p) = .ok ended → ended.status = .exited 0)
    (hbuild0 : ∀ ended, m.launch ⟨earlier ++ [(Command.configure p).argv]⟩ (.build p o.parallel) =
      .ok ended → ended.status = .exited 0) :
    q = p ∧ (∃ ended, m.launch ⟨earlier⟩ (.configure p) = .ok ended) ∧
      attempt m o (earlier ++ [(Command.configure p).argv] ++ [(Command.build p o.parallel).argv])
        (.install p) ∈ es := by
  have hlist {q : Preset} : (Command.configure q).argv ∉ earlier := fun hmem =>
    configure_ne_listPresets q (he _ hmem)
  have hplan := plan_build (p := p) ha
  constructor
  · rcases h.mem_kept k hconf with hmem | hmem | ⟨s, hs, heq⟩
    · exact absurd hmem hlist
    · exact absurd hmem (configure_ne_listPresets q)
    · rw [hplan, hi] at hs
      rcases List.mem_cons.mp hs with rfl | hs
      · exact configure_argv_inj heq
      rcases List.mem_cons.mp hs with rfl | hs
      · exact absurd heq (configure_ne_build q p o.parallel)
      · rw [List.mem_singleton.mp hs] at heq
        have hne : buildTool ≠ elevator := by decide
        exact absurd (List.cons.inj heq).1 hne
  · rw [hplan] at h
    obtain ⟨-, rfl | ⟨ended, more, hrun, hbad, -⟩ | ⟨conf, es₁, hrun, -, hsub₁, h₁, k₁⟩⟩ :=
      h.kept_cons k
    · exact absurd hconf hlist
    · exact absurd (hconf0 ended hrun) hbad
    obtain ⟨-, rfl | ⟨ended, more, hrun, hbad, -⟩ | ⟨_, es₂, -, -, hsub₂, h₂, k₂⟩⟩ :=
      h₁.kept_cons k₁
    · rcases List.mem_append.mp hbuild with hmem | hmem
      · exact absurd (he _ hmem) (build_ne_listPresets q parallel)
      · exact absurd (List.mem_singleton.mp hmem).symm (configure_ne_build p q parallel)
    · exact absurd (hbuild0 ended hrun) hbad
    rw [hi] at h₂
    exact ⟨⟨conf, hrun⟩, hsub₁ (hsub₂ (h₂.kept_cons k₂).1)⟩

/-- Behind the listing and the question about a default there is a passage, in a session of listings
alone, or there is none and only listings were started. -/
theorem Trace.passage_kept (h : Trace o es result) (k : Kept m [] es later) :
    OnlyListings later ∨ o.action ≠ .none ∧
      ∃ p earlier es', OnlyListings earlier ∧ es' ⊆ es ∧ Passage o p (o.plan p) es' result ∧
        Kept m earlier es' later := by
  cases h with
  | @mk opening acting result first then_ =>
    obtain ⟨between, k, kclosing⟩ := k.append_inv
    obtain ⟨listed, kopening, kacting⟩ := k.append_inv
    rw [kclosing.closing_inv]
    obtain ⟨more, hmore, rfl⟩ := kopening.of_calls_eq_nil first.calls_eq_nil
    have inside {xs : List Event} (hsub : xs ⊆ acting) :
        xs ⊆ opening ++ acting ++ closing result := fun e he =>
      List.mem_append_left _ (List.mem_append_right _ (hsub he))
    cases then_ with
    | idle action =>
      cases kacting with
      | nil => exact .inl hmore
    | unresolved action unnamed empty =>
      obtain ⟨asked, hasked, rfl⟩ := kacting.of_calls_eq_nil rfl
      exact .inl (hmore.append hasked)
    | named action name steps =>
      exact .inr ⟨action, _, _, _, hmore, inside fun e he => he, steps, kacting⟩
    | default action unnamed first steps =>
      cases kacting with
      | queried listings next =>
        cases next with
        | told next =>
          refine .inr ⟨action, _, _, _, hmore.append listings, inside fun e he => ?_, steps, next⟩
          exact List.mem_cons_of_mem _ (List.mem_cons_of_mem _ he)

/-! ## Projects -/

namespace Project

variable (p : Project)

/-- A stand-in's name leads to it, if it can be started. -/
theorem standIn_name (s : StandIn) :
    p.standIn s.name = match p.availability s with
      | .ready => .ok s
      | .missing => .error .noSuchFile
      | .notExecutable => .error .notPermitted := by
  obtain ⟨tool, elevator, listing, listingStatus, statuses, files, gone⟩ := p
  cases s <;> cases tool <;> cases elevator <;> rfl

/-- The build tool's name leads to its stand-in, if that can be started. -/
theorem standIn_buildTool :
    p.standIn buildTool = match p.tool with
      | .ready => .ok .tool
      | .missing => .error .noSuchFile
      | .notExecutable => .error .notPermitted :=
  p.standIn_name .tool

theorem kept_tool (arguments : List String) :
    p.kept (Command.tool arguments).argv = (Command.tool arguments).argv := by
  show p.kept (buildTool :: arguments) = buildTool :: arguments
  rw [kept, standIn_buildTool]
  cases p.tool <;> rfl

/-- Listings do not count among the programs whose statuses are given. -/
theorem others_onlyListings {calls : List (List String)} (h : OnlyListings calls) :
    p.others calls = 0 := by
  unfold others
  rw [List.length_eq_zero_iff, List.filter_eq_nil_iff]
  intro argv hmem
  rw [h argv hmem, Command.listPresets, kept_tool]
  decide

theorem isListing_configure (q : Preset) : isListing (Command.configure q).argv = false := by
  have hne : (("--preset=" ++ q.name) == "--list-presets") = false :=
    beq_eq_false_iff_ne.mpr (presetArgument_ne q.name (by decide))
  show (buildTool == buildTool && ("--preset=" ++ q.name) == "--list-presets") = false
  rw [hne, Bool.and_false]

theorem isListing_build (q : Preset) (parallel : Bool) :
    isListing (Command.build q parallel).argv = false := rfl

/-- A configure step is the first program whose status is given. -/
theorem others_configure {calls : List (List String)} (h : OnlyListings calls) (q : Preset) :
    p.others (calls ++ [(Command.configure q).argv]) = 1 := by
  have hq : isListing (p.kept (Command.configure q).argv) = false := by
    rw [Command.configure, kept_tool]
    exact isListing_configure q
  unfold others
  rw [List.filter_append, List.length_append]
  have h0 : (calls.filter fun argv => !isListing (p.kept argv)).length = 0 :=
    p.others_onlyListings h
  simp only [h0, List.filter_cons, hq, Bool.not_false, ↓reduceIte, List.filter_nil,
    List.length_singleton]

/-- How the build tool ends that is not asked to list presets. -/
theorem launch_tool_status {arguments : List String} {earlier : List (List String)}
    {ended : Finished} (hl : isListing (Command.tool arguments).argv = false)
    (h : p.machine.launch ⟨earlier⟩ (Command.tool arguments) = .ok ended) :
    ended.status = p.statuses (p.others earlier) := by
  obtain ⟨standIn, hstandIn, -, rfl⟩ := p.start_eq_ok_iff.mp (Machine.launch_eq_ok_iff.mp h).2
  have htool : standIn = .tool := by
    have hready := p.standIn_buildTool.symm.trans hstandIn
    cases htool : p.tool with
    | missing => rw [htool] at hready; cases hready
    | notExecutable => rw [htool] at hready; cases hready
    | ready => rw [htool] at hready; exact (Except.ok.inj hready).symm
  subst htool
  have hl' : isListing (StandIn.tool.name :: (Command.tool arguments).arguments) = false := hl
  simp only [respond, hl', Bool.false_eq_true, ↓reduceIte]

/-- The programs that a command line starts are those of the build it asks for, if it asks for one
that can begin. -/
theorem call_calls (scripts : Scripts) (color : Bool) (arguments : List String) :
    (p.call scripts color arguments).calls = [] ∨
      ∃ ignored o, Request.ofArguments arguments = .build ignored o ∧
        (p.call scripts color arguments).calls = (p.account ignored o).state.calls := by
  unfold call
  cases h : Request.ofArguments arguments with
  | help name => exact .inl rfl
  | version => exact .inl rfl
  | refuse name e => exact .inl rfl
  | complete shell => exact .inl rfl
  | build ignored o =>
    show (p.buildEnding color ignored o).calls = [] ∨ _
    by_cases hgone : o.source = .file ∧ p.directoryGone = true
    · rw [buildEnding, if_pos hgone]
      exact .inl rfl
    · refine .inr ⟨ignored, o, rfl, ?_⟩
      show (p.buildEnding color ignored o).calls = _
      rw [buildEnding, if_neg hgone]

/-- **A program is tried** in a build: the machine is asked to start it, and what comes of that is
what came of a command of the build. -/
def Tries (ignored : List String) (o : Options) (argv : List String) : Prop :=
  ∃ c output earlier, c.argv = argv ∧
    Event.started c output (Machine.outcomeOf output (p.machine.start earlier argv)) ∈
      (p.account ignored o).events

/-- The programs of a build are listings, and then perhaps those of a passage. -/
theorem account_passage_kept (ignored : List String) (o : Options) :
    OnlyListings (p.account ignored o).state.calls ∨ o.action ≠ .none ∧
      ∃ q earlier es, OnlyListings earlier ∧ es ⊆ (p.account ignored o).events ∧
        Passage o q (o.plan q) es (p.account ignored o).answer ∧
        Kept p.machine earlier es (p.account ignored o).state.calls := by
  have htrace := build_trace (p.world o.source) o {}
  have hkept := perform_kept p.machine o.source p.files o.build {}
  rcases htrace.passage_kept hkept with honly | ⟨ha, q, earlier, es, he, hsub, hpass, hk⟩
  · exact .inl honly
  · refine .inr ⟨ha, q, earlier, es, he, fun e hmem => ?_, hpass, hk⟩
    exact List.mem_append_left _ (List.mem_append_right _ (hsub hmem))

end Project

/-- A preset whose configure step can be handed over can be handed over to be installed. -/
theorem hasNul_install (q : Preset) :
    (Command.install q).hasNul = (Command.configure q).hasNul := by
  have hinstall : (Command.install q).argv = [elevator, buildTool, "--install", q.buildDirectory] :=
    rfl
  have hconfigure : (Command.configure q).argv = [buildTool, "--preset=" ++ q.name] := rfl
  unfold Command.hasNul
  rw [hinstall, hconfigure]
  simp only [List.any_cons, List.any_nil, buildDirectory_eq, String.toList_append,
    List.contains_eq_mem, List.mem_append]
  have hnone : ∀ s ∈ [elevator, buildTool, "--install", "builds/", "--preset="],
      '\x00' ∉ s.toList := by decide
  simp only [List.mem_cons, List.not_mem_nil, or_false, forall_eq_or_imp, forall_eq] at hnone
  simp only [hnone, decide_false, Bool.false_or, Bool.or_false, false_or]

theorem hasNul_eq_false_of_launch {m : Machine} {s : Session} {c : Command} {ended : Finished}
    (h : m.launch s c = .ok ended) : c.hasNul = false := by
  cases hnul : c.hasNul with
  | false => rfl
  | true =>
    rw [Machine.launch, if_pos hnul] at h
    cases h

theorem build_argv_optionsOf (g : Given) (q : Preset) :
    (Command.build q (optionsOf g).parallel).argv =
      ["cmake", "--build", "builds/" ++ q.name] ++
        if .noParallel ∈ g.switches then [] else ["--parallel"] := by
  have hparallel : (optionsOf g).parallel = !decide (Switch.noParallel ∈ g.switches) := by
    simp only [optionsOf, Options.ofWords, Flags.ofSwitches, List.contains_eq_mem]
  rw [hparallel]
  by_cases h : Switch.noParallel ∈ g.switches
  · simp only [h, decide_true, Bool.not_true, ↓reduceIte]
    rfl
  · simp only [h, decide_false, Bool.not_false, ↓reduceIte]
    rfl

/-- **The elevator is guarded.** Where a command line starts it, it starts it once and last, to
install a preset; the command line was accepted and asks for that, and but for listings it started
two programs before, which configured and built the same preset and ended with status zero.
Conversely, where an accepted command line asks for it and those two were started and end so, the
elevator is tried. -/
theorem elevator_guarded (p : Project) (scripts : Scripts) (color : Bool)
    (arguments : List String) :
    let calls := (p.call scripts color arguments).calls
    (∀ before argv after, calls = before ++ argv :: after → argv.head? = some "sudo" →
      after = [] ∧ ∃ g name listings, Accepts arguments g ∧ AsksToInstall g ∧
        (∀ l ∈ listings, l = ["cmake", "--list-presets"]) ∧
        before = listings ++ [["cmake", "--preset=" ++ name],
          ["cmake", "--build", "builds/" ++ name] ++
            if .noParallel ∈ g.switches then [] else ["--parallel"]] ∧
        argv = ["sudo", "cmake", "--install", "builds/" ++ name] ∧
        p.statuses 0 = .exited 0 ∧ p.statuses 1 = .exited 0) ∧
    (∀ g name, Accepts arguments g → AsksToInstall g →
      ["cmake", "--preset=" ++ name] ∈ calls →
      (["cmake", "--build", "builds/" ++ name] ∈ calls ∨
        ["cmake", "--build", "builds/" ++ name, "--parallel"] ∈ calls) →
      p.statuses 0 = .exited 0 → p.statuses 1 = .exited 0 →
      ∃ ignored o, Request.ofArguments arguments = .build ignored o ∧
        p.Tries ignored o ["sudo", "cmake", "--install", "builds/" ++ name]) := by
  intro calls
  have first {earlier : List (List String)} (he : OnlyListings earlier) (q : Preset)
      {ended : Finished} (h : p.machine.launch ⟨earlier⟩ (.configure q) = .ok ended) :
      ended.status = p.statuses 0 :=
    (p.others_onlyListings he) ▸ p.launch_tool_status (Project.isListing_configure q) h
  have second {earlier : List (List String)} (he : OnlyListings earlier) (q : Preset)
      {parallel : Bool} {ended : Finished}
      (h : p.machine.launch ⟨earlier ++ [(Command.configure q).argv]⟩ (.build q parallel) =
        .ok ended) : ended.status = p.statuses 1 :=
    (p.others_configure he q) ▸ p.launch_tool_status (Project.isListing_build q parallel) h
  constructor
  · intro before argv after split hargv
    rcases p.call_calls scripts color arguments with hnil | ⟨ignored, o, hrequest, hcalls⟩
    · rw [show calls = [] from hnil] at split
      exact absurd split (List.append_ne_nil_of_right_ne_nil _ (List.cons_ne_nil _ _)).symm
    rw [show calls = _ from hcalls] at split
    obtain ⟨g, haccepts, rfl⟩ := accepts_of_ofArguments hrequest
    rcases p.account_passage_kept ignored (optionsOf g) with honly |
      ⟨ha, q, earlier, es, he, -, hpass, hk⟩
    · exact absurd hargv (split ▸ honly.unelevated).not_split
    cases haction : (optionsOf g).action with
    | none => exact absurd haction ha
    | clear =>
      exact absurd hargv (split ▸ hpass.unelevated_of_clear hk haction he).not_split
    | build =>
      obtain ⟨hi, hafter, rfl, hbefore, ⟨conf, hconf, hconf0⟩, ⟨built, hbuild, hbuild0⟩⟩ :=
        hpass.elevated_inv hk haction he split hargv
      refine ⟨hafter, g, q.name, earlier, haccepts, (optionsOf_asksToInstall_iff g).mpr
        ⟨haction, hi⟩, he, ?_, rfl, first he q hconf ▸ hconf0, second he q hbuild ▸ hbuild0⟩
      rw [hbefore, List.append_assoc, build_argv_optionsOf]
      rfl
  · intro g name haccepts hasks hconf hbuild h0 h1
    rcases p.call_calls scripts color arguments with hnil | ⟨ignored, o, hrequest, hcalls⟩
    · rw [show calls = [] from hnil] at hconf
      cases hconf
    rw [show calls = _ from hcalls] at hconf hbuild
    have ho : o = optionsOf g := by
      rw [ofArguments_of_accepts haccepts] at hrequest
      cases hrequest
      rfl
    obtain ⟨haction, hi⟩ := (optionsOf_asksToInstall_iff g).mp hasks
    rw [← ho] at haction hi
    rcases p.account_passage_kept ignored o with honly | ⟨-, q, earlier, es, he, hsub, hpass, hk⟩
    · exact absurd (honly _ hconf) (configure_ne_listPresets ⟨name⟩)
    have hbuild' : ∃ parallel, (Command.build ⟨name⟩ parallel).argv ∈
        (p.account ignored o).state.calls := by
      rcases hbuild with h | h
      · exact ⟨false, h⟩
      · exact ⟨true, h⟩
    obtain ⟨parallel, hbuild'⟩ := hbuild'
    obtain ⟨rfl, ⟨conf, hlaunch⟩, hattempt⟩ := hpass.attempts_install hk haction hi he hconf hbuild'
      (fun ended h => (first he q h).trans h0) (fun ended h => (second he q h).trans h1)
    have hinstall := (hasNul_install ⟨name⟩).trans (hasNul_eq_false_of_launch hlaunch)
    have hevent := hsub hattempt
    rw [attempt, Machine.launch, if_neg (Bool.not_eq_true _ ▸ hinstall)] at hevent
    exact ⟨ignored, o, hrequest, .install ⟨name⟩, o.output, earlier ++
      [(Command.configure ⟨name⟩).argv] ++ [(Command.build ⟨name⟩ o.parallel).argv], rfl, hevent⟩

/-- A project without presets of its own, where every program can be started and ends well. -/
def Project.obliging : Project where
  tool := .ready
  elevator := .ready
  listing := []
  listingStatus := .exited 0
  statuses _ := .exited 0
  files := ⟨.absent, .absent⟩
  directoryGone := false

/-- Completion scripts with nothing in them. -/
def Scripts.blank : Scripts := fun _ => ""

/-- There, a build that is asked to install a preset by name comes to the elevator, and both halves
of what guards it speak of that build. -/
theorem elevator_guarded_obliging :
    (∃ g name listings, Accepts ["pbuild", "preset=x", "--install"] g ∧ AsksToInstall g ∧
        (∀ l ∈ listings, l = ["cmake", "--list-presets"]) ∧
        [["cmake", "--preset=x"], ["cmake", "--build", "builds/x", "--parallel"]] =
          listings ++ [["cmake", "--preset=" ++ name], ["cmake", "--build", "builds/" ++ name] ++
            if .noParallel ∈ g.switches then [] else ["--parallel"]] ∧
        ["sudo", "cmake", "--install", "builds/x"] =
          ["sudo", "cmake", "--install", "builds/" ++ name]) ∧
      ∃ ignored o, Request.ofArguments ["pbuild", "preset=x", "--install"] = .build ignored o ∧
        Project.obliging.Tries ignored o ["sudo", "cmake", "--install", "builds/x"] := by
  have hcalls : (Project.obliging.call .blank false ["pbuild", "preset=x", "--install"]).calls =
      [["cmake", "--preset=x"], ["cmake", "--build", "builds/x", "--parallel"]] ++
        ["sudo", "cmake", "--install", "builds/x"] :: [] := rfl
  have haccepts : Accepts ["pbuild", "preset=x", "--install"] ⟨["preset=x"], [.install], none⟩ :=
    ⟨rfl, rfl⟩
  have hasks : AsksToInstall ⟨["preset=x"], [.install], none⟩ := by
    refine ⟨by decide, by decide, ?_⟩
    show some (Word.preset "x") ≠ some .list
    decide
  obtain ⟨guarded, tried⟩ :=
    elevator_guarded Project.obliging .blank false ["pbuild", "preset=x", "--install"]
  constructor
  · obtain ⟨-, g, name, listings, h, hi, hl, hbefore, hargv, -⟩ := guarded _ _ _ hcalls rfl
    exact ⟨g, name, listings, h, hi, hl, hbefore, hargv⟩
  · refine tried _ "x" haccepts hasks ?_ (.inr ?_) rfl rfl
    · rw [hcalls]
      exact List.mem_append_left _ List.mem_cons_self
    · rw [hcalls]
      exact List.mem_append_left _ (List.mem_cons_of_mem _ List.mem_cons_self)

end PresetBuild
