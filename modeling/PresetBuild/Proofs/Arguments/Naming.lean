import PresetBuild.Proofs.Arguments.Insertion

/-!
# The name that the program is called by

The first text of a command line is the name that the program was called by, and the others are its
arguments. They are all sorted together, and what is read are the arguments kept behind the first
one (`handed`). A name that is an unknown flag is therefore set aside, and the first argument kept
is taken for the name in its place and never read.

`handed_under_names` says exactly when two names come to the same: if both are unknown flags or
neither is, or if no argument is kept. Then the same options are built by, the same programs are
started and the exit status is the same, in every project. The requests may differ nevertheless
(`Request.Alike`): a message gives the name, and a name that is set aside is warned about.
-/

namespace PresetBuild

open Arguments (Given Stop UsageError)

/-- **The arguments that are read**: those kept, but for the first, which is taken for the name. -/
def handed (texts : List String) : List Argument :=
  (Argument.sort texts).1.drop 1

/-- **The options that a request builds by**, if it asks for a build. -/
def Request.options? : Request → Option Options
  | .build _ o => some o
  | _ => none

/-- **Requests that ask for the same**, whatever the name and whatever was passed over. -/
inductive Request.Alike : Request → Request → Prop
  | help (name name' : String) : Alike (.help name) (.help name')
  | version : Alike .version .version
  | refuse (name name' : String) (e : UsageError) : Alike (.refuse name e) (.refuse name' e)
  | complete (shell : Shell) : Alike (.complete shell) (.complete shell)
  | build (ignored ignored' : List String) (o : Options) :
      Alike (.build ignored o) (.build ignored' o)

variable {name name' : String} {texts xs ys : List String}

/-! ## What is read -/

/-- Behind a name that is kept, all that is kept is read. -/
theorem handed_of_not_unknown (h : ¬UnknownFlag name) :
    handed (name :: texts) = texts.filterMap Argument.ofText? := by
  obtain ⟨a, ha⟩ := Option.ne_none_iff_exists'.mp (mt ofText?_eq_none_iff.mp h)
  show ((name :: texts).filterMap Argument.ofText?).drop 1 = _
  rw [List.filterMap_cons_some ha, List.drop_succ_cons, List.drop_zero]

/-- Behind a name that is set aside, the first argument that is kept is not read. -/
theorem handed_of_unknown (h : UnknownFlag name) :
    handed (name :: texts) = (texts.filterMap Argument.ofText?).drop 1 := by
  show ((name :: texts).filterMap Argument.ofText?).drop 1 = _
  rw [List.filterMap_cons_none (ofText?_eq_none_iff.mpr h)]

/-- No argument is kept exactly if all are unknown flags. -/
theorem kept_eq_nil_iff :
    texts.filterMap Argument.ofText? = [] ↔ ∀ t ∈ texts, UnknownFlag t := by
  rw [List.filterMap_eq_nil_iff]
  exact forall₂_congr fun _ _ => ofText?_eq_none_iff

/-- A list is itself without its first element only if it has none. -/
theorem eq_drop_one_iff {α : Type} {as : List α} : as = as.drop 1 ↔ as = [] := by
  cases as with
  | nil => exact iff_of_true rfl rfl
  | cons a as => exact iff_of_false (List.cons_ne_self a as) (List.cons_ne_nil a as)

/-- **Where two names have the same arguments read.** -/
theorem handed_eq_iff : handed (name :: texts) = handed (name' :: texts) ↔
    ((UnknownFlag name ↔ UnknownFlag name') ∨ ∀ t ∈ texts, UnknownFlag t) := by
  by_cases h : UnknownFlag name <;> by_cases h' : UnknownFlag name'
  · exact iff_of_true (by rw [handed_of_unknown h, handed_of_unknown h']) (.inl (iff_of_true h h'))
  · rw [handed_of_unknown h, handed_of_not_unknown h', eq_comm, eq_drop_one_iff, kept_eq_nil_iff]
    exact (or_iff_right fun heq => h' (heq.mp h)).symm
  · rw [handed_of_not_unknown h, handed_of_unknown h', eq_drop_one_iff, kept_eq_nil_iff]
    exact (or_iff_right fun heq => h (heq.mpr h')).symm
  · exact iff_of_true (by rw [handed_of_not_unknown h, handed_of_not_unknown h'])
      (.inl (iff_of_false h h'))

/-! ## What is asked for -/

theorem Request.ofGiven_alike (setAside setAside' : List String) (g : Given) :
    Alike (ofGiven setAside g) (ofGiven setAside' g) := by
  unfold ofGiven
  cases g.shell with
  | some shell => exact .complete shell
  | none => exact .build _ _ _

theorem Request.ofStop_alike (name name' : String) (stop : Stop) :
    Alike (ofStop name stop) (ofStop name' stop) := by
  cases stop with
  | help => exact .help name name'
  | version => exact .version
  | mistake e => exact .refuse name name' e

/-- **Where the same is read, the same is asked for.** -/
theorem Request.ofArguments_alike (h : handed xs = handed ys) :
    Alike (ofArguments xs) (ofArguments ys) := by
  have hread : Arguments.parse ((Argument.sort xs).1.drop 1) =
      Arguments.parse ((Argument.sort ys).1.drop 1) := congrArg Arguments.parse h
  unfold ofArguments
  simp only [hread]
  cases Arguments.parse ((Argument.sort ys).1.drop 1) with
  | ok given => exact ofGiven_alike _ _ given
  | error stop => exact ofStop_alike _ _ stop

theorem Request.Alike.options?_eq {r r' : Request} (h : r.Alike r') : r.options? = r'.options? := by
  cases h <;> rfl

/-- Where the same is asked for, it ends the same, but for what is said. -/
theorem Request.Alike.answer_eq {r r' : Request} (h : r.Alike r') (scripts : Scripts) (p : Project)
    (color : Bool) : (r.answer scripts p color).exit = (r'.answer scripts p color).exit ∧
      (r.answer scripts p color).calls = (r'.answer scripts p color).calls := by
  cases h with
  | help =>
    -- The texts of the two helps are not to be compared.
    show 0 = 0 ∧ [] = []
    exact ⟨rfl, rfl⟩
  | version => exact ⟨rfl, rfl⟩
  | refuse =>
    show 2 = 2 ∧ [] = []
    exact ⟨rfl, rfl⟩
  | complete => exact ⟨rfl, rfl⟩
  | build ignored ignored' o =>
    show (p.buildEnding color ignored o).exit = (p.buildEnding color ignored' o).exit ∧
      (p.buildEnding color ignored o).calls = (p.buildEnding color ignored' o).calls
    rw [p.buildEnding_warned color ignored, p.buildEnding_warned color ignored']
    exact ⟨rfl, rfl⟩

/-! ## Whether the name matters -/

/-- **Two names that the program is called by have the same arguments read** exactly if both are
unknown flags or neither is, or if all arguments are unknown flags. Where the same is read, the
program builds by the same options, or by none, and in every project it starts the same programs
and exits with the same status. -/
theorem handed_under_names (name name' : String) (texts : List String) :
    (handed (name :: texts) = handed (name' :: texts) ↔
      ((UnknownFlag name ↔ UnknownFlag name') ∨ ∀ t ∈ texts, UnknownFlag t)) ∧
    (handed (name :: texts) = handed (name' :: texts) →
      (Request.ofArguments (name :: texts)).options? =
          (Request.ofArguments (name' :: texts)).options? ∧
        ∀ (p : Project) (scripts : Scripts) (color : Bool),
          (p.call scripts color (name :: texts)).exit =
              (p.call scripts color (name' :: texts)).exit ∧
            (p.call scripts color (name :: texts)).calls =
              (p.call scripts color (name' :: texts)).calls) := by
  refine ⟨handed_eq_iff, fun h => ?_⟩
  have halike := Request.ofArguments_alike h
  exact ⟨halike.options?_eq, fun p scripts color => halike.answer_eq scripts p color⟩

/-- A name that is a known flag is a name like any other. -/
theorem handed_under_names_known :
    (UnknownFlag "--CLEAR" ↔ UnknownFlag "pbuild") ∧
      (Project.obliging.call .blank false ["--CLEAR", "--nope", "preset=x"]).calls =
        (Project.obliging.call .blank false ["pbuild", "--nope", "preset=x"]).calls := by
  have hkept : ¬UnknownFlag "--CLEAR" := fun h =>
    absurd (ofText?_eq_none_iff.mpr h) (by decide +kernel)
  have hplain : ¬UnknownFlag "pbuild" := fun h => absurd h.dashed (by decide)
  have hiff := iff_of_false hkept hplain
  obtain ⟨hhanded, hsame⟩ := handed_under_names "--CLEAR" "pbuild" ["--nope", "preset=x"]
  exact ⟨hiff, ((hsame (hhanded.mpr (.inl hiff))).2 Project.obliging .blank false).2⟩

/-- Called by an unknown flag, the program takes the argument that names a preset for its name. It
asks for a default and finds none, where it builds when called by its own name. -/
theorem handed_under_name_set_aside :
    UnknownFlag "--odd" ∧ ¬UnknownFlag "pbuild" ∧
      handed ["--odd", "preset=x"] = [] ∧ handed ["pbuild", "preset=x"] = [.plain "preset=x"] ∧
      (Request.ofArguments ["--odd", "preset=x"]).options? ≠
        (Request.ofArguments ["pbuild", "preset=x"]).options? ∧
      (Project.obliging.call .blank false ["--odd", "preset=x"]).exit = 1 ∧
      (Project.obliging.call .blank false ["pbuild", "preset=x"]).exit = 0 ∧
      (Project.obliging.call .blank false ["--odd", "preset=x"]).calls =
        [["cmake", "--list-presets"]] ∧
      (Project.obliging.call .blank false ["pbuild", "preset=x"]).calls =
        [["cmake", "--preset=x"], ["cmake", "--build", "builds/x", "--parallel"]] := by
  have hunknown : UnknownFlag "--odd" := ofText?_eq_none_iff.mp (by decide +kernel)
  have hplain : ¬UnknownFlag "pbuild" := fun h => absurd h.dashed (by decide)
  refine ⟨hunknown, hplain, ?_⟩
  decide +kernel

end PresetBuild
