import PresetBuild.Notice
import PresetBuild.Proofs.Elevation

/-!
# Texts that are read back

A command's text joins what is started with single spaces and quotes nothing, so that it can only be
read back where no part has a space. The parts of the five commands have none but those of the
preset's name. For a preset whose name has no space the text is therefore cut into the parts again
(`Task.pieces_text`), and since no two tasks start the same (`Task.eq_of_argv_eq`), it says which
command it is, and of which preset.

The names in a hint are joined with a comma and a space. Commas may stand in names as well, but a
name without a space ends at the space, and the character before that is the comma put there
(`Text.pieces_intercalate_marked`).
-/

namespace PresetBuild

/-- **What a command is for.** -/
inductive Task where
  | listPresets
  | configure (preset : Preset)
  | build (preset : Preset) (parallel : Bool)
  | clean (preset : Preset)
  | install (preset : Preset)
  deriving DecidableEq, Repr

/-- The command for a task. -/
def Task.command : Task → Command
  | .listPresets => .listPresets
  | .configure p => .configure p
  | .build p parallel => .build p parallel
  | .clean p => .clean p
  | .install p => .install p

/-- The preset that a task is about, if it is about one. -/
def Task.preset? : Task → Option Preset
  | .listPresets => none
  | .configure p | .build p _ | .clean p | .install p => some p

/-- **A preset without a space** in its name. -/
def Preset.Unspaced (p : Preset) : Prop :=
  ' ' ∉ p.name.toList

/-- **A task without a space** in the name of its preset. -/
def Task.Unspaced (t : Task) : Prop :=
  ∀ p ∈ t.preset?, p.Unspaced

/-- What is started for a command, word by word. -/
theorem Command.argv_eq (c : Command) :
    c.argv = (if c.elevated then ["sudo"] else []) ++ c.program :: c.arguments :=
  rfl

variable {p q : Preset} {t u : Task}

theorem Preset.name_inj : p.name = q.name ↔ p = q :=
  ⟨congrArg Preset.mk, congrArg Preset.name⟩

theorem Preset.Unspaced.append (h : p.Unspaced) (front : String) (hfront : ' ' ∉ front.toList) :
    ' ' ∉ (front ++ p.name).toList := by
  rw [String.toList_append, List.mem_append]
  exact not_or.mpr ⟨hfront, h⟩

/-! ## Commands -/

/-- What is started for each task. -/
theorem Task.argv_command (t : Task) : t.command.argv = match t with
    | .listPresets => ["cmake", "--list-presets"]
    | .configure p => ["cmake", "--preset=" ++ p.name]
    | .build p parallel =>
      ["cmake", "--build", "builds/" ++ p.name] ++ if parallel then ["--parallel"] else []
    | .clean p => ["cmake", "--build", "builds/" ++ p.name, "--target", "clean"]
    | .install p => ["sudo", "cmake", "--install", "builds/" ++ p.name] := by
  cases t <;> rfl

/-- The parts that are started for a task have no space. -/
theorem Task.Unspaced.argv (h : t.Unspaced) : ∀ part ∈ t.command.argv, ' ' ∉ part.toList := by
  rw [Task.argv_command]
  cases t with
  | listPresets => simp
  | configure p => simpa using (h p rfl).append "--preset=" (by decide)
  | build p parallel =>
    have hdirectory := (h p rfl).append "builds/" (by decide)
    cases parallel <;> simpa using hdirectory
  | clean p => simpa using (h p rfl).append "builds/" (by decide)
  | install p => simpa using (h p rfl).append "builds/" (by decide)

/-- **No two tasks start the same.** -/
theorem Task.eq_of_argv_eq (h : t.command.argv = u.command.argv) : t = u := by
  have hlisting (p : Preset) : "--preset=" ++ p.name ≠ "--list-presets" :=
    presetArgument_ne p.name (by decide)
  rw [argv_command, argv_command] at h
  cases t with
  | listPresets =>
    cases u with
    | listPresets => rfl
    | configure q => simp [(hlisting q).symm] at h
    | _ => simp at h
  | configure p =>
    cases u with
    | configure q => simpa [Preset.name_inj] using h
    | listPresets => simp [hlisting p] at h
    | _ => simp at h
  | build p parallel =>
    cases u with
    | build q parallel' =>
      have hparallel : parallel = parallel' := by
        cases parallel <;> cases parallel' <;> simp at h ⊢
      subst hparallel
      simpa [Preset.name_inj] using h
    | clean q => cases parallel <;> simp at h
    | _ => simp at h
  | clean p =>
    cases u with
    | clean q => simpa [Preset.name_inj] using h
    | build q parallel => cases parallel <;> simp at h
    | _ => simp at h
  | install p =>
    cases u with
    | install q => simpa [Preset.name_inj] using h
    | _ => simp at h

/-- **The text for a task is cut into what is started for it.** -/
theorem Task.pieces_text (h : t.Unspaced) :
    Text.pieces ' ' t.command.text.toList = t.command.argv.map String.toList := by
  have hne : t.command.argv.map String.toList ≠ [] := by
    rw [argv_command]
    cases t <;> simp
  rw [Command.text, String.toList_intercalate]
  exact Text.pieces_intercalate hne (List.forall_mem_map.mpr h.argv)

/-- **The text of a command says what it is for.** -/
theorem Task.eq_of_text_eq (ht : t.Unspaced) (hu : u.Unspaced)
    (h : t.command.text = u.command.text) : t = u := by
  have hparts : t.command.argv.map String.toList = u.command.argv.map String.toList := by
    rw [← pieces_text ht, ← pieces_text hu, h]
  exact eq_of_argv_eq ((List.map_inj_right fun _ _ => String.toList_inj.mp).mp hparts)

/-! ## Hints -/

/-- **The names in a hint say which presets there are.** -/
theorem eq_of_names_eq {ps qs : List Preset} (hps : ps ≠ []) (hqs : qs ≠ [])
    (h : ∀ p ∈ ps, p.Unspaced) (h' : ∀ q ∈ qs, q.Unspaced)
    (heq : Notice.names ps = Notice.names qs) : ps = qs := by
  have hjoined := congrArg String.toList heq
  rw [Notice.names, Notice.names, String.toList_intercalate, String.toList_intercalate,
    List.map_map, List.map_map] at hjoined
  have hnames : ps.map (String.toList ∘ Preset.name) = qs.map (String.toList ∘ Preset.name) :=
    Text.intercalate_marked_inj [','] (by decide) (by simpa using hps) (by simpa using hqs)
      (List.forall_mem_map.mpr h) (List.forall_mem_map.mpr h') hjoined
  exact (List.map_inj_right fun _ _ hname =>
    Preset.name_inj.mp (String.toList_inj.mp hname)).mp hnames

/-- The message of a hint without colour, if there are presets. -/
theorem hint_message {ps : List Preset} (h : ps ≠ []) :
    (Notice.unknownPresetHint ps).map (Notice.message false) =
      some ("Available presets: " ++ Notice.names ps) := by
  have hsome : ps.isEmpty = false := by simpa using h
  rw [Notice.unknownPresetHint, hsome]
  show some ("Available presets: " ++ String.ofList (Notice.names ps).toList) = _
  rw [String.ofList_toList]

/-- **Texts are faithful** to names without a space. The text of a command, cut at each space, is
its program and its arguments, behind the elevator exactly if it needs that. Two tasks whose
commands have the same text are the same. And two hints without colour that say the same presets
are there are hints about the same presets. -/
theorem texts_faithful :
    (∀ t : Task, t.Unspaced → Text.pieces ' ' t.command.text.toList =
      ((if t.command.elevated then ["sudo"] else []) ++
        t.command.program :: t.command.arguments).map String.toList) ∧
    (∀ t u : Task, t.Unspaced → u.Unspaced → t.command.text = u.command.text → t = u) ∧
    ∀ ps qs : List Preset, ps ≠ [] → qs ≠ [] → (∀ p ∈ ps, p.Unspaced) → (∀ q ∈ qs, q.Unspaced) →
      (Notice.unknownPresetHint ps).map (Notice.message false) =
        (Notice.unknownPresetHint qs).map (Notice.message false) → ps = qs := by
  refine ⟨fun t h => ?_, fun t u ht hu h => Task.eq_of_text_eq ht hu h,
    fun ps qs hps hqs h h' heq => ?_⟩
  · rw [Task.pieces_text h, Command.argv_eq]
  · rw [hint_message hps, hint_message hqs, Option.some.injEq, String.append_right_inj] at heq
    exact eq_of_names_eq hps hqs h h' heq

/-- Presets named like options, and names that differ in where a comma stands. -/
theorem texts_faithful_lookalike :
    let p : Preset := ⟨"--parallel"⟩
    let ps : List Preset := [⟨"a,"⟩, ⟨"b"⟩]
    let qs : List Preset := [⟨"a"⟩, ⟨",b"⟩]
    (Task.build p true).Unspaced ∧ (Task.clean p).Unspaced ∧
      Text.pieces ' ' (Task.clean p).command.text.toList =
        ["cmake", "--build", "builds/--parallel", "--target", "clean"].map String.toList ∧
      (Task.build p true).command.text ≠ (Task.clean p).command.text ∧
      (∀ p ∈ ps, p.Unspaced) ∧ (∀ q ∈ qs, q.Unspaced) ∧
      (Notice.unknownPresetHint ps).map (Notice.message false) ≠
        (Notice.unknownPresetHint qs).map (Notice.message false) := by
  intro p ps qs
  have hp : p.Unspaced := by unfold Preset.Unspaced; decide
  have hbuild : (Task.build p true).Unspaced := fun _ hmem => Option.some.inj hmem ▸ hp
  have hclean : (Task.clean p).Unspaced := fun _ hmem => Option.some.inj hmem ▸ hp
  have hps : ∀ p ∈ ps, p.Unspaced := by simp [ps, Preset.Unspaced]
  have hqs : ∀ q ∈ qs, q.Unspaced := by simp [qs, Preset.Unspaced]
  obtain ⟨hpieces, htexts, hhints⟩ := texts_faithful
  exact ⟨hbuild, hclean, hpieces _ hclean, fun h => absurd (htexts _ _ hbuild hclean h) nofun,
    hps, hqs, fun h => absurd (hhints ps qs nofun nofun hps hqs h) (by decide)⟩

end PresetBuild
