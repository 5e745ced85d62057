import PresetBuild.Proofs.Likeness
import PresetBuild.Proofs.Listing.Lines
import PresetBuild.Proofs.PresetFile.Contribution
import PresetBuild.Rehearsal

/-!
# The two ways of discovery agree

Presets are discovered in what the build tool lists or in the preset files. Here both are given the
same entries: `ListingText` says how the build tool lists them, one line for each that is not
hidden, and `FileText` which files have them, in any shape and spelling and with any other members,
a description among them. The main statement, `discoveries_agree`, is that a build cannot tell the
two apart, whatever its options and however the commands come out.

Names must be free of white space and quotes, and descriptions of quotes and line ends
(`Described`): the listing has no way to write these. That both ways find the same presets is a fact
about two readers; that a build then goes the same way is a fact about scripts in worlds that are
alike (`PresetBuild.Proofs.Likeness`).
-/

namespace PresetBuild

open Text (isBlank)
open PresetFile (FileText visible)

/-- **An entry that both a file and a listing can show.** -/
structure Described where
  name : List Char
  description : Option (List Char)
  hidden : Bool
  /-- A name has neither white space nor quotes. -/
  solid : ∀ c ∈ name, isBlank c = false ∧ c ≠ '"'
  /-- A description has no quotes and stands in one line. -/
  plain : ∀ d ∈ description, '"' ∉ d ∧ '\n' ∉ d

namespace Described

/-- The entry as a file has it. -/
def entry (e : Described) : Entry :=
  ⟨e.name, e.hidden⟩

/-- **A line that lists an entry**: its name in quotes, and its description, if there is one, some
spaces further on. -/
inductive Line (e : Described) : List Char → Prop
  | bare (none : e.description = none) : Line e ("  \"".toList ++ e.name ++ "\"".toList)
  | described {d : List Char} {spaces : Nat} (some : e.description = some d) (apart : 0 < spaces) :
      Line e
        ("  \"".toList ++ e.name ++ "\"".toList ++ List.replicate spaces ' ' ++ "- ".toList ++ d)

variable {e : Described} {line : List Char}

theorem quote_not_mem_name (e : Described) : '"' ∉ e.name :=
  fun h => (e.solid _ h).2 rfl

theorem newline_not_mem_name (e : Described) : '\n' ∉ e.name :=
  fun h => absurd (e.solid _ h).1 (by decide)

/-- A line that lists an entry gives its name. -/
theorem Line.gives (h : e.Line line) : Listing.Gives line (some e.name) := by
  cases h with
  | bare => exact @Listing.Gives.name "  ".toList e.name [] e.quote_not_mem_name (by decide)
  | @described d spaces some apart =>
    have hafter : '"' ∉ List.replicate spaces ' ' ++ "- ".toList ++ d := by
      simp only [List.mem_append, not_or]
      refine ⟨⟨fun h => ?_, by decide⟩, (e.plain d some).1⟩
      exact absurd (List.eq_of_mem_replicate h) (by decide)
    have hgives := @Listing.Gives.name "  ".toList e.name _ e.quote_not_mem_name hafter
    simp only [List.append_assoc] at hgives ⊢
    exact hgives

/-- A line that lists an entry is one line. -/
theorem Line.newline_not_mem (h : e.Line line) : '\n' ∉ line := by
  cases h with
  | bare =>
    simp only [List.mem_append, not_or]
    exact ⟨⟨by decide, e.newline_not_mem_name⟩, by decide⟩
  | @described d spaces some apart =>
    simp only [List.mem_append, not_or]
    refine ⟨⟨⟨⟨⟨by decide, e.newline_not_mem_name⟩, by decide⟩, fun h => ?_⟩, by decide⟩,
      (e.plain d some).2⟩
    exact absurd (List.eq_of_mem_replicate h) (by decide)

end Described

/-- **A text that lists entries**: a heading, an empty line, and a line for each entry that is not
hidden, in order. -/
def ListingText (es : List Described) (text : List Char) : Prop :=
  ∃ lines, List.Forall₂ Described.Line (es.filter fun e => !e.hidden) lines ∧
    text = "Available configure presets:\n\n".toList ++ lines.flatMap (· ++ ['\n'])

variable {es : List Described} {inFile inListing : List Char}

/-! ## The same presets -/

theorem written_heading (lines : List (List Char)) :
    Listing.written "Available configure presets:".toList [] lines [] =
      "Available configure presets:\n\n".toList ++ lines.flatMap (· ++ ['\n']) := by
  show List.intercalate ['\n'] (("Available configure presets:".toList :: [] :: lines) ++ [[]]) = _
  rw [Text.intercalate_concat_nil, List.flatMap_cons, List.flatMap_cons, ← List.append_assoc]
  rfl

/-- What is found in the listing of entries are those that are not hidden. -/
theorem ListingText.presets_eq (h : ListingText es inListing) :
    Listing.presets (String.ofList inListing) = visible (es.map Described.entry) := by
  obtain ⟨lines, hlines, rfl⟩ := h
  have hgives : List.Forall₂ Listing.Gives lines
      ((es.filter fun e => !e.hidden).map fun e => some e.name) := by
    rw [List.forall₂_map_right_iff]
    exact (hlines.imp fun _ _ h => h.gives).flip
  have honeLine : ∀ l ∈ lines, '\n' ∉ l :=
    ((List.forall₂_and_left _ _).mp (hlines.flip.imp fun _ _ h => ⟨h.newline_not_mem, h⟩)).1
  have hwritten : ∀ l ∈ "Available configure presets:".toList :: [] :: (lines ++ [[]]),
      '\n' ∉ l := by
    intro l hl
    simp only [List.mem_cons, List.mem_append, List.not_mem_nil, or_false] at hl
    rcases hl with rfl | rfl | hl | rfl
    · decide
    · exact List.not_mem_nil
    · exact honeLine l hl
    · exact List.not_mem_nil
  have hnames : ((es.filter fun e => !e.hidden).map fun e => some e.name).reduceOption =
      (es.filter fun e => !e.hidden).map Described.name := by
    rw [List.reduceOption, List.filterMap_map, ← List.filterMap_eq_map]
    rfl
  rw [← written_heading, Listing.presets, String.toList_ofList, Listing.names_written hwritten,
    Listing.filterMap_name?_eq hgives, hnames, visible, List.filter_map, List.map_map, List.map_map,
    List.map_map]
  apply List.map_congr_left
  intro e _
  exact congrArg (fun n => Preset.mk (String.ofList n))
    (Listing.unspaced_eq_self fun c hc => (e.solid c hc).1)

/-- What is found in a file of entries are those that are not hidden. -/
theorem presets_of_file (h : FileText (es.map Described.entry) inFile) :
    (PresetFiles.mk (.holding (Text.Utf8.encode inFile)) .absent).presets =
      visible (es.map Described.entry) := by
  rw [PresetFiles.presets, FileState.presets_holding h]
  exact List.append_nil _

/-! ## The same build -/

/-- **Rehearsals are alike** where the questions find the same presets and the commands come out
alike. -/
theorem rehearsal_alike {d e : Discovery} {reports reports' : Nat → Report}
    (found : ∀ n, (d.find n).presets = (e.find n).presets)
    (answers : ∀ n, (reports n).answer = (reports' n).answer) :
    (rehearsal d reports).Alike (rehearsal e reports') Eq where
  query := by
    rintro s _ rfl
    exact ⟨Discovery.find_alike (found s.queries), rfl⟩
  start := by
    rintro s _ c output rfl
    exact ⟨⟨answers s.starts, rfl, rfl⟩, rfl⟩

/-- **A build cannot tell how its presets are discovered.** Where the preset file has the entries
that the build tool lists and the commands come out alike, it makes the same calls, writes the same
to standard output and, but for times, to standard error, and ends with the same answer. -/
theorem discoveries_agree (file : FileText (es.map Described.entry) inFile)
    (listing : ListingText es inListing) (o : Options) {reports reports' : Nat → Report}
    (answers : ∀ n, (reports n).answer = (reports' n).answer) :
    let listed := (rehearsal (.listing fun _ => .ok (String.ofList inListing)) reports).perform
      o.build {}
    let filed := (rehearsal (.files ⟨.holding (Text.Utf8.encode inFile), .absent⟩) reports').perform
      o.build {}
    calls listed.events = calls filed.events ∧
      stdoutOf listed.events = stdoutOf filed.events ∧
      (∀ color, stderrOf color (listed.events.map Event.untimed) =
        stderrOf color (filed.events.map Event.untimed)) ∧
      listed.answer = filed.answer := by
  intro listed filed
  have found (n : Nat) :
      (Discovery.find (.listing fun _ => .ok (String.ofList inListing)) n).presets =
        (Discovery.find (.files ⟨.holding (Text.Utf8.encode inFile), .absent⟩) n).presets :=
    listing.presets_eq.trans (presets_of_file file).symm
  obtain ⟨hevents, hanswer⟩ := (rehearsal_alike found answers).perform (build_timeless o) rfl
  exact ⟨calls_eq_of_alike hevents, stdoutOf_eq_of_alike hevents,
    fun color => stderrOf_eq_of_alike color hevents, hanswer⟩

/-- A name that is escaped in a file, a hidden entry, and one without a name. -/
def Described.sample : List Described :=
  [⟨"a\\b".toList, some "A & B".toList, false, List.forall_iff_forall_mem.mp (by decide),
      by decide⟩,
    ⟨"base".toList, none, true, List.forall_iff_forall_mem.mp (by decide), by decide⟩,
    ⟨[], none, false, List.forall_mem_nil _, by decide⟩]

/-- The entries in a file. -/
def Described.sampleFile : String :=
  "\x7b\"configurePresets\": [\x7b\"description\": \"A & B\", \"name\": \"a\\\\b\"\x7d, "
    ++ "[\"base\", true], \x7b\"name\": \"\"\x7d], \"version\": 3\x7d"

/-- The entries in a listing. -/
def Described.sampleListing : String :=
  "Available configure presets:\n\n  \"a\\b\"   - A & B\n  \"\"\n"

/-- A build that lists these and whose configure step fails, at two speeds. -/
theorem discoveries_agree_sample :
    FileText (Described.sample.map Described.entry) Described.sampleFile.toList ∧
    ListingText Described.sample Described.sampleListing.toList ∧
    let o : Options := ⟨.build, none, true, .inherit, true, false, .listing⟩
    let listed := (rehearsal (.listing fun _ => .ok Described.sampleListing)
      fun _ => ⟨.ok false, ⟨1⟩⟩).perform o.build {}
    let filed := (rehearsal
      (.files ⟨.holding (Text.Utf8.encode Described.sampleFile.toList), .absent⟩)
      fun _ => ⟨.ok false, ⟨2⟩⟩).perform o.build {}
    calls listed.events = calls filed.events ∧ stdoutOf listed.events = stdoutOf filed.events ∧
      listed.answer = filed.answer := by
  have hfile : FileText (Described.sample.map Described.entry) Described.sampleFile.toList := by
    apply PresetFile.ofText?_eq_some_iff.mp
    decide +kernel
  have hlisting : ListingText Described.sample Described.sampleListing.toList := by
    refine ⟨["  \"a\\b\"   - A & B".toList, "  \"\"".toList], ?_, by decide⟩
    exact .cons (@Described.Line.described ⟨"a\\b".toList, _, _, _, _⟩ "A & B".toList 3 rfl
      (by decide)) (.cons (.bare rfl) .nil)
  have hagree := @discoveries_agree _ _ _ hfile hlisting
    ⟨.build, none, true, .inherit, true, false, .listing⟩ (fun _ => ⟨.ok false, ⟨1⟩⟩)
    (fun _ => ⟨.ok false, ⟨2⟩⟩) fun _ => rfl
  rw [String.ofList_toList] at hagree
  obtain ⟨hcalls, hstdout, -, hanswer⟩ := hagree
  exact ⟨hfile, hlisting, hcalls, hstdout, hanswer⟩

end PresetBuild
