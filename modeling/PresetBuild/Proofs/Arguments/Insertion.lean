import Mathlib.Data.List.Basic
import PresetBuild.Proofs.Arguments.Reading
import PresetBuild.Proofs.Arguments.Recognition

/-!
# An argument more that means nothing

An unknown flag, or a word that means nothing, may be put anywhere behind the program's name, and
nothing that the program does is changed by it (`unknown_argument_changes_nothing`); where a build
warns, it warns once more. There is one place where a word is not passed over, and that is right
behind a `--completions` without a value (`AwaitsShell`): there it is read as the name of a shell.
Behind two dashes alone, where everything is a word, there is no such place.

Unknown flags are set aside before anything is read, so the arguments are read as before. A word is
read among the others, and the two readings come to the same but for that word
(`PresetBuild.Proofs.Arguments.Reading`). Either way the two command lines ask for the same, and
only a build speaks of what it passes over (`Request.Gains`).
-/

namespace PresetBuild

open Arguments (Given Reading Stop UsageError)

/-! ## What is passed over -/

/-- **Texts behind which the name of a shell is awaited**: the nearest one that is not set aside is
`--completions`, in any mixture of cases, and there are no two dashes alone before it, behind which
it would be a word. -/
def AwaitsShell (before : List String) : Prop :=
  ∃ front spelled flags, before = front ++ spelled :: flags ∧ "--" ∉ front ∧
    spelled.toList.map Char.toLower = "--completions".toList ∧ ∀ f ∈ flags, UnknownFlag f

/-- **An argument that is passed over** behind some others: an unknown flag, or a word that means
nothing where no shell is awaited. -/
inductive PassedOver (before : List String) (text : String) : Prop
  | flag (unknown : UnknownFlag text)
  | word (undashed : Undashed text) (unknown : Word.ofString? text = none)
      (unawaited : ¬AwaitsShell before)

/-- Two dashes alone are no flag, known or unknown. -/
theorem ofText?_separator : Argument.ofText? "--" = some (.plain "--") :=
  ofText?_eq_plain_iff.mpr ⟨fun _ => rfl, rfl⟩

/-- Where the last argument kept is `--completions`, and no two dashes alone are kept before it, the
name of a shell is awaited. -/
theorem awaitsShell_of_getLast? {before : List String}
    (h : (before.filterMap Argument.ofText?).getLast? = some (.flag .completions none))
    (mixed : .plain "--" ∉ before.filterMap Argument.ofText?) : AwaitsShell before := by
  obtain ⟨kept, hkept⟩ := List.getLast?_eq_some_iff.mp h
  obtain ⟨front, back, rfl, -, hback⟩ := List.filterMap_eq_append_iff.mp hkept
  obtain ⟨aside, spelled, flags, rfl, -, hspelled, hflags⟩ := List.filterMap_eq_cons_iff.mp hback
  refine ⟨front ++ aside, spelled, flags, (List.append_assoc _ _ _).symm, fun hmem => ?_,
    spelled_of_ofText?_eq hspelled, fun f hf => ?_⟩
  · rw [← List.append_assoc] at mixed
    exact mixed (List.mem_filterMap.mpr ⟨_, List.mem_append_left _ hmem, ofText?_separator⟩)
  · exact ofText?_eq_none_iff.mp (List.filterMap_eq_nil_iff.mp hflags f hf)

/-- Behind a text that is kept and is not `--completions`, no shell is awaited. -/
theorem not_awaitsShell_concat {last : String} (kept : ¬UnknownFlag last)
    (other : last.toList.map Char.toLower ≠ "--completions".toList) (front : List String) :
    ¬AwaitsShell (front ++ [last]) := by
  rintro ⟨front', spelled, flags, heq, -, hspelled, hflags⟩
  rcases List.eq_nil_or_concat' flags with rfl | ⟨flags', flag, rfl⟩
  · obtain ⟨-, hlast⟩ := List.append_inj' heq rfl
    exact other (List.singleton_inj.mp hlast ▸ hspelled)
  · rw [← List.cons_append, ← List.append_assoc] at heq
    obtain ⟨-, hlast⟩ := List.append_inj' heq rfl
    rw [List.singleton_inj.mp hlast] at kept
    exact kept (hflags flag (List.mem_append_right _ (List.mem_singleton_self _)))

/-- Behind two dashes alone no shell is awaited, whatever stands between. -/
theorem not_awaitsShell_of_mem {before : List String} (h : "--" ∈ before) :
    ¬AwaitsShell before := by
  rintro ⟨front, spelled, flags, rfl, hfront, hspelled, hflags⟩
  rcases List.mem_append.mp h with hmem | hmem
  · exact hfront hmem
  · rcases List.mem_cons.mp hmem with rfl | hmem
    · exact absurd hspelled (by decide)
    · exact (hflags _ hmem).longer rfl

/-! ## What is asked for -/

/-- **Two requests, of which the second passes one argument more over.** Only a build speaks of it;
everything else that is asked for stays as it is, but for the wording of a mistake. -/
inductive Request.Gains (text : String) : Request → Request → Prop
  | build (earlier later : List String) (o : Options) :
      Gains text (.build (earlier ++ later) o) (.build (earlier ++ text :: later) o)
  | refuse (name : String) (e e' : UsageError) : Gains text (.refuse name e) (.refuse name e')
  | same {r : Request} (silent : ∀ ignored o, r ≠ .build ignored o) : Gains text r r

variable {text name : String} {before : List String}

/-- An argument more that is set aside. -/
theorem Request.ofGiven_aside (earlier later : List String) (g : Given) :
    Gains text (ofGiven (earlier ++ later) g) (ofGiven (earlier ++ text :: later) g) := by
  unfold Request.ofGiven
  cases g.shell with
  | some shell => exact .same nofun
  | none =>
    dsimp only
    rw [List.append_assoc, List.append_assoc]
    exact .build _ _ _

/-- A word more that means nothing. -/
theorem Request.ofGiven_gains {g g' : Given} (h : g.Gains text g')
    (unknown : Word.ofString? text = none) (aside : List String) :
    Gains text (ofGiven aside g) (ofGiven aside g') := by
  obtain ⟨earlier, later, hwords, hwords'⟩ := h.words
  unfold Request.ofGiven
  rw [h.shell, h.switches, hwords, hwords']
  cases g.shell with
  | some shell => exact .same nofun
  | none =>
    have hknown : (Word.split (earlier ++ text :: later)).1 =
        (Word.split (earlier ++ later)).1 := by
      simp only [Word.split, List.filterMap_append, List.filterMap_cons_none unknown]
    have hunknown : (Word.split (earlier ++ text :: later)).2 =
        (Word.split earlier).2 ++ text :: (Word.split later).2 := by
      simp only [Word.split, List.filter_append]
      rw [List.filter_cons_of_pos (by rw [unknown]; rfl)]
    have hsplit : (Word.split (earlier ++ later)).2 =
        (Word.split earlier).2 ++ (Word.split later).2 := List.filter_append _ _
    dsimp only
    rw [hknown, hunknown, hsplit, ← List.append_assoc, ← List.append_assoc]
    exact .build _ _ _

/-- What ends a reading early asks for no build. -/
theorem Request.ofStop_gains (name : String) (stop : Stop) :
    Gains text (ofStop name stop) (ofStop name stop) := by
  cases stop with
  | help => exact .same nofun
  | version => exact .same nofun
  | mistake e => exact .refuse name e e

/-- A command line, behind a name that is no flag. -/
theorem Request.ofArguments_cons (called : ¬"--".toList <+: name.toList) (texts : List String) :
    ofArguments (name :: texts) =
      match Arguments.parse (texts.filterMap Argument.ofText?) with
      | .ok g => ofGiven (texts.filter fun t => (Argument.ofText? t).isNone) g
      | .error stop => ofStop (Arguments.programName name) stop := by
  have hname := ofText?_of_not_prefix called
  have hsort : Argument.sort (name :: texts) =
      (.plain name :: texts.filterMap Argument.ofText?,
        texts.filter fun t => (Argument.ofText? t).isNone) := by
    rw [Argument.sort, List.filterMap_cons_some hname,
      List.filter_cons_of_neg (by rw [hname]; nofun)]
  rw [Request.ofArguments, hsort]
  rfl

/-- **A command line with an argument more that is passed over.** -/
theorem Request.ofArguments_gains (called : ¬"--".toList <+: name.toList)
    (passed : PassedOver before text) (after : List String) :
    Gains text (ofArguments (name :: (before ++ after)))
      (ofArguments (name :: (before ++ text :: after))) := by
  rw [ofArguments_cons called, ofArguments_cons called]
  cases passed with
  | flag unknown =>
    have hnone := ofText?_eq_none_iff.mpr unknown
    rw [List.filterMap_append, List.filterMap_append, List.filterMap_cons_none hnone,
      List.filter_append, List.filter_append, List.filter_cons_of_pos (by rw [hnone]; rfl)]
    cases Arguments.parse _ with
    | ok g => exact ofGiven_aside _ _ g
    | error stop => exact ofStop_gains _ stop
  | word undashed unknown unawaited =>
    have hword := undashed.ofText?_eq
    have hread := Reading.readFrom_insert (r := {}) undashed (fun _ => nofun)
      (fun hlast => .inr (not_not.mp fun mixed => unawaited (awaitsShell_of_getLast? hlast mixed)))
      (after.filterMap Argument.ofText?)
    rw [List.filterMap_append, List.filterMap_append, List.filterMap_cons_some hword,
      List.filter_append, List.filter_append, List.filter_cons_of_neg (by rw [hword]; nofun)]
    unfold Arguments.parse
    generalize Reading.readFrom {} (_ ++ after.filterMap Argument.ofText?) = x,
      Reading.readFrom {} (_ ++ _ :: _) = y at hread ⊢
    cases hread with
    | ok given => exact ofGiven_gains given unknown _
    | stopped stop => exact ofStop_gains _ stop
    | mistaken e e' => exact .refuse _ e e'

/-! ## What is seen of it -/

/-- **A build with some arguments passed over is the build without them**, behind the warnings. -/
theorem Project.buildEnding_warned (p : Project) (color : Bool) (ignored : List String)
    (o : Options) :
    p.buildEnding color ignored o =
      { p.buildEnding color [] o with
        stderr := stderrOf color (warnings ignored) ++ (p.buildEnding color [] o).stderr } := by
  by_cases begins : o.source = .file ∧ p.directoryGone = true
  · simp only [Project.buildEnding, if_pos begins]
    rfl
  · rw [p.buildEnding_eq color ignored o begins, p.buildEnding_eq color [] o begins,
      List.append_assoc]
    rfl

/-- The warning about one argument among those about others. -/
theorem stderrOf_warnings_insert (color : Bool) (earlier later : List String) (text : String) :
    stderrOf color (warnings (earlier ++ text :: later)) =
      stderrOf color (warnings earlier) ++
        Text.Utf8.encode
          (Severity.warning.line color ("Ignoring unknown argument '" ++ text ++ "'")).toList ++
        stderrOf color (warnings later) := by
  rw [warnings, List.map_append, stderrOf_append, List.append_assoc]
  rfl

/-- **An unknown argument changes nothing.** Put anywhere behind the program's name, an argument
that is passed over there leaves the exit status, the programs started and standard output as they
were, whatever the command line asks for. Where it asks for a build, standard error has one warning
more, which gives the argument as it was written. -/
theorem unknown_argument_changes_nothing (called : ¬"--".toList <+: name.toList)
    (passed : PassedOver before text) (after : List String) (p : Project) (scripts : Scripts)
    (color : Bool) :
    let original := name :: (before ++ after)
    let ending := p.call scripts color original
    let inserted := p.call scripts color (name :: (before ++ text :: after))
    inserted.exit = ending.exit ∧ inserted.calls = ending.calls ∧
      inserted.stdout = ending.stdout ∧
      ∀ ignored o, Request.ofArguments original = .build ignored o →
        ∃ earlier later rest, ignored = earlier ++ later ∧
          ending.stderr = stderrOf color (warnings earlier) ++
            (stderrOf color (warnings later) ++ rest) ∧
          inserted.stderr = stderrOf color (warnings earlier) ++
            Text.Utf8.encode
              (Severity.warning.line color ("Ignoring unknown argument '" ++ text ++ "'")).toList ++
            (stderrOf color (warnings later) ++ rest) := by
  intro original ending inserted
  have hgains := Request.ofArguments_gains called passed after
  unfold ending inserted original Project.call
  generalize Request.ofArguments (name :: (before ++ after)) = asked,
    Request.ofArguments (name :: (before ++ text :: after)) = asked' at hgains ⊢
  cases hgains with
  | same silent => exact ⟨rfl, rfl, rfl, fun ignored o h => absurd h (silent ignored o)⟩
  | refuse name e e' => exact ⟨rfl, rfl, rfl, nofun⟩
  | build earlier later o =>
    have hanswer (ignored : List String) : Request.answer scripts p color (.build ignored o) =
        { p.buildEnding color [] o with
          stderr := stderrOf color (warnings ignored) ++ (p.buildEnding color [] o).stderr } :=
      p.buildEnding_warned color ignored o
    rw [hanswer, hanswer]
    refine ⟨rfl, rfl, rfl, fun ignored o' h => ?_⟩
    obtain ⟨rfl, rfl⟩ := Request.build.inj h
    refine ⟨earlier, later, (p.buildEnding color [] o).stderr, rfl, ?_, ?_⟩
    · show stderrOf color (warnings (earlier ++ later)) ++ _ = _
      rw [warnings, List.map_append, stderrOf_append, List.append_assoc]
      rfl
    · show stderrOf color (warnings (earlier ++ text :: later)) ++ _ = _
      rw [stderrOf_warnings_insert, List.append_assoc]

/-- An unknown flag behind two dashes alone, an unknown word not far behind an unknown flag, and one
right behind a `--completions` that is a word itself. All these lines ask for a build whose programs
end well. -/
theorem unknown_argument_changes_nothing_mixed :
    ¬"--".toList <+: "pbuild".toList ∧
    PassedOver ["--CLEAR", "--"] "--Bogus=list" ∧
    PassedOver ["--nope", "list"] "bogus" ∧
    PassedOver ["--", "--completions"] "bogus" ∧
    (Project.obliging.call .blank false ["pbuild", "--CLEAR", "--", "--Bogus=list", "list"]).calls =
      (Project.obliging.call .blank false ["pbuild", "--CLEAR", "--", "list"]).calls ∧
    (Project.obliging.call .blank false ["pbuild", "--nope", "list", "bogus", "--clear"]).exit =
      (Project.obliging.call .blank false ["pbuild", "--nope", "list", "--clear"]).exit ∧
    (Project.obliging.call .blank false ["pbuild", "--", "--completions", "bogus", "list"]).stdout =
      (Project.obliging.call .blank false ["pbuild", "--", "--completions", "list"]).stdout := by
  have called : ¬"--".toList <+: "pbuild".toList := by decide
  have hflag : PassedOver ["--CLEAR", "--"] "--Bogus=list" :=
    .flag (ofText?_eq_none_iff.mp (by decide +kernel))
  have hword : PassedOver ["--nope", "list"] "bogus" := by
    refine .word (by decide) (by decide +kernel) ?_
    refine not_awaitsShell_concat (fun h => ?_) (by decide) ["--nope"]
    exact absurd h.dashed (by decide)
  have hbehind : PassedOver ["--", "--completions"] "bogus" :=
    .word (by decide) (by decide +kernel) (not_awaitsShell_of_mem List.mem_cons_self)
  obtain ⟨-, hcalls, -⟩ := unknown_argument_changes_nothing called hflag ["list"] Project.obliging
    .blank false
  obtain ⟨hexit, -⟩ := unknown_argument_changes_nothing called hword ["--clear"] Project.obliging
    .blank false
  obtain ⟨-, -, hstdout, -⟩ := unknown_argument_changes_nothing called hbehind ["list"]
    Project.obliging .blank false
  exact ⟨called, hflag, hword, hbehind, hcalls, hexit, hstdout⟩

end PresetBuild
