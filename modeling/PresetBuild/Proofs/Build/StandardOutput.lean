import PresetBuild.Proofs.Build.Questions
import PresetBuild.Proofs.Listing.Lines
import PresetBuild.Rehearsal

/-!
# What a build writes to standard output

Standard output is for the listing alone. What a build writes there itself (`ownOutput`) is nothing
where no listing is wanted, and otherwise each name that its first question found, with a newline
behind it; all of that is written before any command is run. Notices, errors and hints go elsewhere,
so no failure leaves anything there (`build_prints_listing`).

Whoever reads the listing back line by line finds the names again, if they come from what the build
tool lists: such a name has no white space in it, whatever the tool wrote
(`Listing.isBlank_of_mem_name`), so no name takes up two lines.
-/

namespace PresetBuild

variable {σ : Type}

/-! ## The listing as it is written -/

/-- **What a build itself writes to standard output** at some events. -/
def ownOutput (events : List Event) : List Char :=
  events.flatMap fun e => e.out.toList

/-- The names of presets, each with a newline behind it. -/
def nameLines (ps : List Preset) : List Char :=
  ps.flatMap fun p => p.name.toList ++ ['\n']

/-- A build writes the names of the presets that it prints, and nothing else. -/
theorem ownOutput_eq (events : List Event) : ownOutput events = nameLines (printed events) := by
  induction events with
  | nil => rfl
  | cons e events ih =>
    cases e with
    | queried found => exact ih
    | started c output outcome => exact ih
    | told n => exact ih
    | printed p => exact congrArg₂ (· ++ ·) String.toList_append ih

/-- Names without a newline are the lines that are written of them. -/
theorem pieces_nameLines {ps : List Preset} (h : ∀ p ∈ ps, '\n' ∉ p.name.toList) :
    Text.pieces '\n' (nameLines ps) = ps.map (fun p => p.name.toList) ++ [[]] := by
  have hlines : nameLines ps =
      List.intercalate ['\n'] (ps.map (fun p => p.name.toList) ++ [[]]) := by
    rw [Text.intercalate_concat_nil, List.flatMap_map]
    rfl
  rw [hlines, Text.pieces_intercalate (List.append_ne_nil_of_right_ne_nil _ (List.cons_ne_nil _ _))]
  intro part hpart
  rcases List.mem_append.mp hpart with hpart | hpart
  · obtain ⟨p, hp, rfl⟩ := List.mem_map.mp hpart
    exact h p hp
  · rw [List.mem_singleton.mp hpart]
    exact List.not_mem_nil

/-- A preset from what the build tool lists has a name without a newline. -/
theorem newline_not_mem_listed {captured : Except Fault String} {p : Preset}
    (h : p ∈ Listing.ofCapture captured) : '\n' ∉ p.name.toList := by
  cases captured with
  | error fault => cases h
  | ok text =>
    obtain ⟨name, hname, rfl⟩ := List.mem_map.mp h
    intro hmem
    rw [String.toList_ofList] at hmem
    exact absurd (Listing.isBlank_of_mem_name hname hmem) (by decide)

/-! ## Where it is written -/

variable {o : Options} {es : List Event} {result : Except BuildError Unit}

/-- What comes of the action prints nothing. -/
theorem Acting.printed_eq_nil (h : Acting o es result) : printed es = [] := by
  cases h with
  | idle => rfl
  | unresolved => rfl
  | named _ _ steps => exact (steps.looksBack fun s hs => plan_stage_iff hs).unprinted
  | default _ _ _ steps => exact (steps.looksBack fun s hs => plan_stage_iff hs).unprinted

/-- The listing prints what its question finds, where it is wanted, and nothing where it is not. -/
theorem perform_list_printed (w : World σ) (o : Options) (s : σ) :
    let run := w.perform o.list s
    let listed := if o.listing then (w.query s).1.presets else []
    printed run.events = listed ∧
      (o.listing = true → (findings run.events).head? = some listed) := by
  intro run listed
  cases ho : o.listing with
  | true =>
    have hlisted : listed = (w.query s).1.presets := if_pos ho
    rw [show run = _ from World.perform_list_wanted w o s ho, hlisted]
    exact ⟨printed_printed_all _, fun _ => rfl⟩
  | false =>
    have hlisted : listed = [] := if_neg (ho ▸ Bool.false_ne_true)
    rw [show run = _ from World.perform_list_unwanted w o s ho, hlisted]
    exact ⟨rfl, nofun⟩

/-- **A build prints the listing and nothing else.** What it writes to standard output itself is
each name that the first question found, on a line of its own, where a listing is wanted, and
nothing where none is. All of that is written before the first command is run, and nothing is behind
it. Where the question is answered by what the build tool lists, the lines are the names again. -/
theorem build_prints_listing (w : World σ) (o : Options) (s : σ) :
    let run := w.perform o.build s
    let listed := if o.listing then (w.query s).1.presets else []
    ownOutput run.events = nameLines listed ∧
      (o.listing = true → (findings run.events).head? = some listed) ∧
      (∀ before c output outcome after,
        run.events = before ++ .started c output outcome :: after →
          ownOutput before = nameLines listed ∧ ownOutput after = []) ∧
      ∀ captured, o.listing = true → (w.query s).1.presets = Listing.ofCapture captured →
        Text.pieces '\n' (ownOutput run.events) =
          (Listing.ofCapture captured).map (fun p => p.name.toList) ++ [[]] := by
  intro run listed
  have hrun := World.perform_build w o s
  let acted := w.perform o.act (w.perform o.list s).state
  have hevents : run.events =
      (w.perform o.list s).events ++ (acted.events ++ closing acted.answer) := by
    rw [show run = _ from hrun, ← List.append_assoc]
  have hbehind : printed (acted.events ++ closing acted.answer) = [] := by
    rw [printed_append, (act_acting w o _).printed_eq_nil, printed_closing]
    rfl
  obtain ⟨hprinted, hasked⟩ := perform_list_printed w o s
  have hown : ownOutput run.events = nameLines listed := by
    rw [ownOutput_eq, hevents, printed_append, hprinted, hbehind, List.append_nil]
  refine ⟨hown, fun ho => ?_, fun before c output outcome after split => ?_,
    fun captured ho hcaptured => ?_⟩
  · rw [hevents, findings_append, List.head?_append, hasked ho]
    rfl
  · rw [hevents] at split
    obtain ⟨more, rfl, hrest⟩ := split_at_call (list_opening w o s).calls_eq_nil split
    rw [hrest, printed_append, List.append_eq_nil_iff] at hbehind
    obtain ⟨hmore, hafter⟩ := hbehind
    have hafter' : printed after = [] := hafter
    rw [ownOutput_eq, ownOutput_eq, printed_append, hprinted, hmore, hafter', List.append_nil]
    exact ⟨rfl, rfl⟩
  · have hlisted : listed = Listing.ofCapture captured := (if_pos ho).trans hcaptured
    rw [hown, hlisted]
    exact pieces_nameLines fun p hp => newline_not_mem_listed hp

/-- Names with a blank and with a line separator in them are printed without, each on a line of its
own, before a configure step that fails. -/
theorem build_prints_listing_spaced :
    let captured := "Available configure presets:\n\n  \"a b\"\n  \"é\u2028x\" - y\n"
    let w := rehearsal (.listing fun _ => .ok captured) fun _ => ⟨.ok false, ⟨0⟩⟩
    let o : Options := ⟨.build, none, true, .inherit, true, false, .listing⟩
    o.listing = true ∧ (w.query {}).1.presets = Listing.ofCapture (.ok captured) ∧
      Text.pieces '\n' (ownOutput (w.perform o.build {}).events) =
        ["ab".toList, "éx".toList, []] := by
  intro captured w o
  obtain ⟨-, -, -, hlines⟩ := build_prints_listing w o {}
  refine ⟨rfl, rfl, (hlines (.ok captured) rfl rfl).trans ?_⟩
  decide +kernel

end PresetBuild
