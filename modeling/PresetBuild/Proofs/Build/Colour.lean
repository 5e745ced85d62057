import PresetBuild.Proofs.Build.Questions
import PresetBuild.Proofs.Likeness
import PresetBuild.Proofs.Text.Erasure

/-!
# Colour and what a build does

Colours are for the eye alone. Two runs of one build, one in colours and one without, ask the same
questions, run the same commands, print the same and end with the same answer; what they say, times
aside, differs by the sequences that switch colours on and off and by nothing else
(`colour_changes_no_behaviour`). That holds for any names of presets, also for names in which there
are such sequences, or pieces of them: once the sequences are erased, both runs have said the same.

The runs take different times. The world is the same, but for how long its commands take
(`World.timed`), so the runs are alike and their events correspond one to one. A line parts from
what is before it, since it begins with no character that a sequence goes on with, and from what is
behind it, since it ends with a newline: so whatever the commands have written around a line, it is
erased by itself.
-/

namespace PresetBuild

open Text (Ink erase inkCodes inkBytes inkCodes_marked inkBytes_marked)

variable {σ : Type}

/-! ## Lines -/

/-- Painted text between others is erased as if it were not painted, behind an end that is in no
code and before a beginning that no code goes on with. -/
theorem erase_painted {front back : List Char} (ink : Ink) (color : Bool) (text : String)
    (hfront : ∀ c ∈ front.getLast?, ∀ code ∈ inkCodes, c ∉ code)
    (hback : ∀ c ∈ back.head?, ∀ code ∈ inkCodes, c ∉ code.tail) :
    erase inkCodes (front ++ ((Severity.painted ink color text).toList ++ back)) =
      erase inkCodes front ++ (erase inkCodes text.toList ++ erase inkCodes back) := by
  rw [inkCodes_marked.erase_append (Text.parts_of_last hfront),
    inkCodes_marked.erase_append (Text.parts_of_head hback), Severity.painted, String.toList_ofList,
    Text.erase_paint]

/-- A line is the margin, the glyph and the message. -/
theorem line_toList (severity : Severity) (color : Bool) (message : String) :
    (severity.line color message).toList = severity.margin.toList ++
      ((Severity.painted severity.ink color severity.glyph).toList ++
        (" " ++ message ++ "\n").toList) := by
  simp [Severity.line]

/-- What is left of a message with painted words in it, from the glyph to the end of the line. -/
theorem erase_words (ink : Ink) (color : Bool) (front words back : String)
    (hfront : ∀ c ∈ (" ".toList ++ front.toList).getLast?, ∀ code ∈ inkCodes, c ∉ code)
    (hback : ∀ c ∈ (back.toList ++ "\n".toList).head?, ∀ code ∈ inkCodes, c ∉ code.tail) :
    erase inkCodes (" " ++ (front ++ Severity.painted ink color words ++ back) ++ "\n").toList =
      erase inkCodes (" ".toList ++ front.toList) ++
        (erase inkCodes words.toList ++ erase inkCodes (back.toList ++ "\n".toList)) := by
  rw [← erase_painted ink color words hfront hback]
  simp only [String.toList_append, List.append_assoc]

/-- **The message of a notice is the same without its colours.** -/
theorem erase_message (color : Bool) (n : Notice) :
    erase inkCodes (" " ++ n.message color ++ "\n").toList =
      erase inkCodes (" " ++ n.message false ++ "\n").toList := by
  cases n with
  | outputHidden =>
    have h (color : Bool) := erase_words .boldYellow color "CMake output was hidden. Rerun without "
      "--no-out" " to see it." (by rintro c ⟨⟩; decide) (by rintro c ⟨⟩; decide)
    exact (h color).trans (h false).symm
  | available ps =>
    have h (color : Bool) := erase_words .cyan color "Available presets: " (Notice.names ps) ""
      (by rintro c ⟨⟩; decide) (by rintro c ⟨⟩; decide)
    have hsame := (h color).trans (h false).symm
    rw [String.append_empty, String.append_empty] at hsame
    exact hsame
  | _ => rfl

/-- **The line of a notice is the same without its colours.** -/
theorem erase_line (color color' : Bool) (n : Notice) :
    erase inkCodes (n.line color).toList = erase inkCodes (n.line color').toList := by
  have hmargin : ∀ c ∈ n.severity.margin.toList.getLast?, ∀ code ∈ inkCodes, c ∉ code := by
    cases n.severity with
    | hint =>
      rintro c ⟨⟩
      decide
    | _ => rintro c ⟨⟩
  have hspace (message : String) : ∀ c ∈ (" " ++ message ++ "\n").toList.head?, ∀ code ∈ inkCodes,
      c ∉ code.tail := by
    rw [String.toList_append, String.toList_append]
    rintro c ⟨⟩
    decide
  rw [Notice.line, Notice.line, line_toList, line_toList,
    erase_painted _ _ _ hmargin (hspace _), erase_painted _ _ _ hmargin (hspace _),
    erase_message color, erase_message color']

/-- A line ends with a newline. -/
theorem line_eq_concat (color : Bool) (n : Notice) :
    ∃ body, (n.line color).toList = body ++ ['\n'] := by
  exact ⟨_, String.toList_append⟩

/-- A line begins with the margin, with paint, or with its glyph. -/
theorem line_eq_cons (color : Bool) (n : Notice) : ∃ c more, (n.line color).toList = c :: more ∧
    c ∈ [' ', '\x1b', '⚡', '✓', '!', 'x'] := by
  rw [Notice.line, line_toList, Severity.painted, String.toList_ofList]
  cases n.severity <;> cases color <;>
    simp [Severity.margin, Severity.glyph, Ink.paint, Ink.opening]

/-- **Bytes of a line part from whatever is before them.** -/
theorem parts_line (color : Bool) (n : Notice) (front back : List UInt8) :
    Text.Parts inkBytes front (Text.Utf8.encode (n.line color).toList ++ back) := by
  obtain ⟨c, more, hline, hc⟩ := line_eq_cons color n
  have hfirst : ∀ b ∈ (String.utf8EncodeChar c).head?, ∀ code ∈ inkBytes, b ∉ code.tail := by
    simp only [List.mem_cons, List.not_mem_nil, or_false] at hc
    rcases hc with rfl | rfl | rfl | rfl | rfl | rfl
    all_goals
      rintro b ⟨⟩
      decide +kernel
  apply Text.parts_of_head
  intro b hb
  apply hfirst b
  rw [hline, Text.Utf8.encode_cons, List.append_assoc, List.head?_append] at hb
  cases hbytes : String.utf8EncodeChar c with
  | nil => exact absurd hbytes String.utf8EncodeChar_ne_nil
  | cons b' bytes => simpa [hbytes] using hb

/-- **Whatever is behind a line parts from its bytes.** -/
theorem line_parts (color : Bool) (n : Notice) (back : List UInt8) :
    Text.Parts inkBytes (Text.Utf8.encode (n.line color).toList) back := by
  obtain ⟨body, hbody⟩ := line_eq_concat color n
  rw [hbody, Text.Utf8.encode_append]
  apply Text.parts_of_last
  intro b hb
  have hnewline : b ∈ some (0x0a : UInt8) := by
    rwa [show Text.Utf8.encode ['\n'] = [0x0a] by decide, List.getLast?_concat] at hb
  cases hnewline
  decide +kernel

/-- A line is erased apart from what is behind it. -/
theorem erase_line_append (color : Bool) (n : Notice) (rest : List Char) :
    erase inkCodes ((n.line color).toList ++ rest) =
      erase inkCodes (n.line color).toList ++ erase inkCodes rest := by
  obtain ⟨body, hbody⟩ := line_eq_concat color n
  rw [hbody]
  apply inkCodes_marked.erase_append
  apply Text.parts_of_last
  intro c hc
  rw [List.getLast?_concat] at hc
  cases hc
  decide

/-- The bytes of a line are erased apart from those on either side. -/
theorem erase_append_line_append (color : Bool) (n : Notice) (before rest : List UInt8) :
    erase inkBytes (before ++ (Text.Utf8.encode (n.line color).toList ++ rest)) =
      erase inkBytes before ++
        (Text.Utf8.encode (erase inkCodes (n.line color).toList) ++ erase inkBytes rest) := by
  rw [inkBytes_marked.erase_append (parts_line color n before rest),
    inkBytes_marked.erase_append (line_parts color n rest), Text.erase_encode]

/-! ## What is said in two runs -/

/-- **What a build itself writes to standard error** at some events. -/
def ownErrors (color : Bool) (events : List Event) : List Char :=
  events.flatMap fun e => (e.err color).toList

variable {xs ys : List Event}

/-- **Alike events are spoken of alike, in any colours**: what is left of a build's own words is the
same, by induction on the events. -/
theorem erase_ownErrors (color color' : Bool) (h : List.Forall₂ Event.Alike xs ys) :
    erase inkCodes (ownErrors color (xs.map Event.untimed)) =
      erase inkCodes (ownErrors color' (ys.map Event.untimed)) := by
  induction h with
  | nil => simp [ownErrors]
  | @cons x y xs ys first _ ih =>
    cases first with
    | queried => exact ih
    | started => exact ih
    | printed => exact ih
    | @told n n' same =>
      show erase inkCodes
          ((n.untimed.line color).toList ++ ownErrors color (xs.map Event.untimed)) =
        erase inkCodes ((n'.untimed.line color').toList ++ ownErrors color' (ys.map Event.untimed))
      rw [erase_line_append, erase_line_append, ih, same, erase_line color color']

/-- The same of all that reaches standard error, behind any bytes. What the questions and commands
let through is the same in both runs, but it may end within a sequence or begin within one, so the
bytes before the events are kept in view. -/
theorem erase_stderrOf (color color' : Bool) (h : List.Forall₂ Event.Alike xs ys)
    (before : List UInt8) :
    erase inkBytes (before ++ stderrOf color (xs.map Event.untimed)) =
      erase inkBytes (before ++ stderrOf color' (ys.map Event.untimed)) := by
  induction h generalizing before with
  | nil => simp [stderrOf]
  | @cons x y xs ys first _ ih =>
    cases first with
    | printed => exact ih before
    | @queried found found' same =>
      show erase inkBytes (before ++ (found.stderr ++ stderrOf color (xs.map Event.untimed))) =
        erase inkBytes (before ++ (found'.stderr ++ stderrOf color' (ys.map Event.untimed)))
      rw [same.stderr, ← List.append_assoc, ← List.append_assoc]
      exact ih (before ++ found'.stderr)
    | @started c output outcome outcome' same =>
      show erase inkBytes (before ++ (outcome.stderr ++ stderrOf color (xs.map Event.untimed))) =
        erase inkBytes (before ++ (outcome'.stderr ++ stderrOf color' (ys.map Event.untimed)))
      rw [same.stderr, ← List.append_assoc, ← List.append_assoc]
      exact ih (before ++ outcome'.stderr)
    | @told n n' same =>
      have hrest := ih []
      rw [List.nil_append, List.nil_append] at hrest
      show erase inkBytes (before ++ (Text.Utf8.encode (n.untimed.line color).toList ++
          stderrOf color (xs.map Event.untimed))) =
        erase inkBytes (before ++ (Text.Utf8.encode (n'.untimed.line color').toList ++
          stderrOf color' (ys.map Event.untimed)))
      rw [erase_append_line_append, erase_append_line_append, hrest, same, erase_line color color']

/-! ## Two runs -/

/-- **A world whose commands take their time.** -/
def World.timed (w : World σ) (clock : Command → Output → σ → Elapsed) : World σ where
  query := w.query
  start c output s :=
    let started := w.start c output s
    ({ started.1 with report := { started.1.report with took := clock c output s } }, started.2)

/-- A world is alike to itself at any other speed. -/
theorem World.timed_alike (w : World σ) (clock clock' : Command → Output → σ → Elapsed) :
    (w.timed clock).Alike (w.timed clock') Eq where
  query := by
    rintro s _ rfl
    exact ⟨⟨rfl, rfl, rfl⟩, rfl⟩
  start := by
    rintro s _ c output rfl
    exact ⟨⟨rfl, rfl, rfl⟩, rfl⟩

/-- Alike events have the same exchanges. -/
theorem exchanges_eq_of_alike (h : List.Forall₂ Event.Alike xs ys) :
    exchanges xs = exchanges ys := by
  induction h with
  | nil => rfl
  | @cons x y xs ys first _ ih =>
    have hfirst : x.exchange? = y.exchange? := by
      cases first with
      | queried same => exact congrArg (fun ps => some (Exchange.asked ps)) same.presets
      | @started c output outcome outcome' same =>
        exact congrArg (fun answer => some (Exchange.ran ⟨c, output, answer⟩)) same.answer
      | told => rfl
      | printed => rfl
    simp only [exchanges, List.filterMap_cons, hfirst]
    rw [show xs.filterMap Event.exchange? = ys.filterMap Event.exchange? from ih]

/-- **Colour changes nothing that a build does.** In any world, and whatever time the commands take
in the one run and in the other, a build in colours and a build without ask the same questions and
make the same calls in the same order, write the same to standard output and end with the same
answer. What the two say, times aside, is the same once the sequences of the colours are erased, and
so is all that reaches standard error, with what the commands write there. -/
theorem colour_changes_no_behaviour (w : World σ) (clock clock' : Command → Output → σ → Elapsed)
    (o : Options) (s : σ) :
    let coloured := (w.timed clock).perform o.build s
    let plain := (w.timed clock').perform o.build s
    exchanges coloured.events = exchanges plain.events ∧
      stdoutOf coloured.events = stdoutOf plain.events ∧
      coloured.answer = plain.answer ∧
      erase inkCodes (ownErrors true (coloured.events.map Event.untimed)) =
        erase inkCodes (ownErrors false (plain.events.map Event.untimed)) ∧
      erase inkBytes (stderrOf true (coloured.events.map Event.untimed)) =
        erase inkBytes (stderrOf false (plain.events.map Event.untimed)) := by
  intro coloured plain
  obtain ⟨hevents, hanswer⟩ :=
    (w.timed_alike clock clock').perform (build_timeless o) (s := s) rfl
  exact ⟨exchanges_eq_of_alike hevents, stdoutOf_eq_of_alike hevents, hanswer,
    erase_ownErrors true false hevents, erase_stderrOf true false hevents []⟩

end PresetBuild
