import PresetBuild.Proofs.Listing.Lines
import PresetBuild.Proofs.Sifting
import PresetBuild.Proofs.Text.Slices

/-!
# A listing read by slices

A listing can also be read as a program does that keeps texts as bytes: it takes the lines from one
index to another, deletes white space from a line, looks backward for two quotes, and takes the
bytes from one offset to another (`slicedNames`). Every slice may be refused there. The two readings
are one (`slicedNames_eq`), so no slice ever is, whatever the text.

What a line names was said by `Gives`, on the line as it stands. Every line gives something or
nothing in that sense (`exists_gives`), which makes the account of a whole text exact: which of its
lines name a preset, in what order the presets come, and what each is called (`presets_exact`). A
name is cut out of the line first there and loses its white space then, which comes to the same as
the other way round.
-/

namespace PresetBuild.Listing

open Text (Misfit isBlank pieces slice textSlice lastOffset?)
open Text.Utf8 (encode encode_append encode_cons)

/-- The byte of a double quote. -/
def quoteByte : UInt8 := 0x22

/-- What stands between the last two double quotes of a text, by offsets into its bytes. -/
def slicedQuote (bytes : List UInt8) : Except Misfit (Option (List UInt8)) :=
  match lastOffset? quoteByte bytes with
  | none => .ok none
  | some close =>
    match textSlice 0 close bytes with
    | .error misfit => .error misfit
    | .ok head =>
      match lastOffset? quoteByte head with
      | none => .ok none
      | some opening => (textSlice (opening + 1) close bytes).map some

/-- The bytes of the name that a line gives, if it gives one. -/
def slicedName (line : List Char) : Except Misfit (Option (List UInt8)) :=
  slicedQuote (encode (unspaced line))

/-- **The names of a listing, read by slices**, each as its bytes. -/
def slicedNames (text : List Char) : Except Misfit (List (List UInt8)) :=
  let lines := pieces '\n' text
  if text.isEmpty || lines.length ≤ headerLines + footerLines then .ok []
  else
    match slice headerLines (lines.length - footerLines) lines with
    | .error misfit => .error misfit
    | .ok entries => (entries.mapM slicedName).map List.reduceOption

/-! ## One line -/

variable {text line : List Char} {given : Option (List Char)}

/-- **Every line gives a name or nothing.** -/
theorem exists_gives (line : List Char) : ∃ given, Gives line given := by
  by_cases few : line.count '"' < 2
  · exact ⟨none, .nothing few⟩
  have hmem : '"' ∈ line := List.count_pos_iff.mp (by omega)
  obtain ⟨front, after, rfl, bare⟩ := Text.exists_last_separator hmem
  rw [List.count_append, List.count_cons_self, List.count_eq_zero.mpr bare] at few
  have hfront : '"' ∈ front := List.count_pos_iff.mp (by omega)
  obtain ⟨before, name, rfl, unquoted⟩ := Text.exists_last_separator hfront
  exact ⟨some name, .name unquoted bare⟩

/-- A line gives a name exactly if it has two quotes. -/
theorem Gives.isSome_iff (h : Gives line given) : given.isSome ↔ 2 ≤ line.count '"' := by
  cases h with
  | name => simp [List.count_append]; omega
  | nothing few => simpa using few

theorem encode_quote (text : List Char) : encode ('"' :: text) = quoteByte :: encode text :=
  encode_cons '"' text

theorem quoteByte_mem_iff : quoteByte ∈ encode text ↔ '"' ∈ text :=
  Text.Utf8.mem_encode_iff (by decide) rfl text

/-- The last quote of a text is found at an offset between two characters. -/
theorem lastOffset?_quote {after : List Char} (bare : '"' ∉ after) (before : List Char) :
    lastOffset? quoteByte (encode (before ++ '"' :: after)) = some (encode before).length := by
  rw [encode_append, encode_quote]
  exact Text.lastOffset?_append (fun hmem => bare (quoteByte_mem_iff.mp hmem)) _

theorem lastOffset?_bare (bare : '"' ∉ text) : lastOffset? quoteByte (encode text) = none :=
  Text.lastOffset?_eq_none fun hmem => bare (quoteByte_mem_iff.mp hmem)

/-- What is in front of the last quote is a slice. -/
theorem textSlice_before (before after : List Char) :
    textSlice 0 (encode before).length (encode (before ++ '"' :: after)) = .ok (encode before) :=
  Text.textSlice_encode [] before ('"' :: after)

/-- **What a text gives is found by slices**, none of which is refused. -/
theorem Gives.slicedQuote_eq (h : Gives text given) :
    slicedQuote (encode text) = .ok (given.map encode) := by
  cases h with
  | @name before name after unquoted bare =>
    have hopen : (encode before).length + 1 = (encode (before ++ ['"'])).length := by
      rw [encode_append, List.length_append]
      rfl
    have hname := Text.textSlice_encode (before ++ ['"']) name ('"' :: after)
    rw [List.append_assoc before, List.singleton_append] at hname
    simp only [slicedQuote, lastOffset?_quote bare, textSlice_before, lastOffset?_quote unquoted,
      hopen, hname]
    rfl
  | nothing few =>
    by_cases hmem : '"' ∈ text
    · -- the one quote is the closing one, and there is no other in front of it
      obtain ⟨before, after, rfl, bare⟩ := Text.exists_last_separator hmem
      rw [List.count_append, List.count_cons_self] at few
      have hbefore : '"' ∉ before := List.count_eq_zero.mp (by omega)
      simp only [slicedQuote, lastOffset?_quote bare, textSlice_before, lastOffset?_bare hbefore]
      rfl
    · rw [slicedQuote, lastOffset?_bare hmem]
      rfl

theorem slicedName_eq (line : List Char) : slicedName line = .ok ((name? line).map encode) := by
  obtain ⟨given, h⟩ := exists_gives line
  rw [h.name?_eq]
  exact h.unspaced.slicedQuote_eq

/-! ## All lines -/

theorem entryLines_eq_slice (h : headerLines + footerLines < (pieces '\n' text).length) :
    slice headerLines ((pieces '\n' text).length - footerLines) (pieces '\n' text) =
      .ok (entryLines text) := by
  unfold headerLines footerLines at h
  rw [slice, if_pos (by unfold headerLines footerLines; omega), List.drop_take, entryLines,
    List.length_drop]
  congr 2

/-- A text of no more lines than are dropped has no line to name anything. -/
theorem entryLines_eq_nil (h : (pieces '\n' text).length ≤ headerLines + footerLines) :
    entryLines text = [] := by
  rw [entryLines, List.length_drop, List.take_eq_nil_iff]
  unfold headerLines footerLines at h ⊢
  omega

/-- **The two readings are one**: no slice is refused, whatever the text. -/
theorem slicedNames_eq (text : List Char) : slicedNames text = .ok ((names text).map encode) := by
  unfold slicedNames
  by_cases hfew : (pieces '\n' text).length ≤ headerLines + footerLines
  · rw [names, entryLines_eq_nil hfew]
    simp only [decide_eq_true hfew, Bool.or_true]
    rfl
  have hne : text.isEmpty = false := by
    cases text with
    | nil => exact absurd (by decide) hfew
    | cons c text => rfl
  have hname : slicedName = fun line => pure ((name? line).map encode) := funext slicedName_eq
  simp only [hne, decide_eq_false hfew, Bool.or_false, Bool.false_eq_true, if_false,
    entryLines_eq_slice (Nat.lt_of_not_le hfew), hname, List.mapM_pure]
  show Except.ok _ = _
  rw [names, List.map_filterMap]
  congr 1
  induction entryLines text with
  | nil => rfl
  | cons line lines ih => cases hline : name? line <;> simp [hline, ih]

/-- The lines that may name a preset are those behind the heading and in front of the last. -/
theorem getElem?_entryLines {i : Nat} : (entryLines text)[i]? = some line ↔
    (pieces '\n' text)[i + 2]? = some line ∧ i + 3 < (pieces '\n' text).length := by
  rw [entryLines, List.getElem?_take, List.length_drop]
  unfold headerLines footerLines
  split
  · rw [List.getElem?_drop, Nat.add_comm 2 i]
    exact ⟨fun h => ⟨h, by omega⟩, And.left⟩
  · exact ⟨nofun, fun h => absurd h.2 (by omega)⟩

/-- A name has no quotes. -/
theorem quote_not_mem_of_mem_names {name : List Char} (h : name ∈ names text) : '"' ∉ name := by
  obtain ⟨line, -, hname⟩ := List.mem_filterMap.mp h
  obtain ⟨given, hgives⟩ := exists_gives line
  rw [hgives.name?_eq] at hname
  obtain ⟨written, rfl, rfl⟩ := Option.map_eq_some_iff.mp hname
  cases hgives with
  | name unquoted => exact not_mem_unspaced unquoted

/-! ## The whole account -/

/-- **A preset named by a line**: its name is what stands between the last two quotes of the line,
without the white space in it. -/
def NamedBy (lines : List (List Char)) (i : Nat) (p : Preset) : Prop :=
  ∃ line name, lines[i]? = some line ∧ Gives line (some name) ∧
    p = ⟨String.ofList (unspaced name)⟩

/-- The lines that name presets are, in order, those between the heading and the last line that have
two quotes. -/
theorem exists_naming_lines (text : String) :
    ∃ places : List Nat, places.Pairwise (· < ·) ∧
      (∀ i, i ∈ places ↔ ∃ line, (pieces '\n' text.toList)[i]? = some line ∧
        (2 ≤ i ∧ i + 1 < (pieces '\n' text.toList).length) ∧ 2 ≤ line.count '"') ∧
      List.Forall₂ (NamedBy (pieces '\n' text.toList)) places (presets text) := by
  obtain ⟨places, hsorted, hmem, hgiven⟩ := exists_places name? (entryLines text.toList)
  have hquotes (line : List Char) : (name? line).isSome ↔ 2 ≤ line.count '"' := by
    obtain ⟨given, h⟩ := exists_gives line
    rw [h.name?_eq, Option.isSome_map, h.isSome_iff]
  refine ⟨places.map (· + headerLines), ?_, ?_, ?_⟩
  · exact hsorted.map _ fun _ _ h => Nat.add_lt_add_right h _
  · intro i
    rw [List.mem_map]
    constructor
    · rintro ⟨j, hj, rfl⟩
      obtain ⟨line, hline, hnamed⟩ := (hmem j).mp hj
      obtain ⟨hpiece, hlast⟩ := getElem?_entryLines.mp hline
      exact ⟨line, hpiece, ⟨Nat.le_add_left 2 j, hlast⟩, (hquotes line).mp hnamed⟩
    · rintro ⟨line, hpiece, ⟨hheading, hlast⟩, hcount⟩
      obtain ⟨j, rfl⟩ := Nat.exists_eq_add_of_le' hheading
      refine ⟨j, (hmem j).mpr ⟨line, ?_, (hquotes line).mpr hcount⟩, rfl⟩
      exact getElem?_entryLines.mpr ⟨hpiece, hlast⟩
  · rw [presets, List.forall₂_map_left_iff, List.forall₂_map_right_iff]
    refine hgiven.imp fun j name => ?_
    rintro ⟨line, hline, hname⟩
    obtain ⟨given, hgives⟩ := exists_gives line
    rw [hgives.name?_eq] at hname
    obtain ⟨written, rfl, rfl⟩ := Option.map_eq_some_iff.mp hname
    exact ⟨line, written, (getElem?_entryLines.mp hline).1, hgives, rfl⟩

/-- **A listing is read exactly.** Its lines are the text cut at its newlines. Reading them by
slices refuses none and gives the presets. The lines that name one are those between the first two
and the last that have two quotes, each one preset and in the order of the lines; it is called what
stands between the last two quotes of its line, less white space. A name has neither white space nor
quotes. -/
theorem presets_exact (text : String) :
    let lines := pieces '\n' text.toList
    (List.intercalate ['\n'] lines = text.toList ∧ ∀ line ∈ lines, '\n' ∉ line) ∧
    slicedNames text.toList = .ok ((presets text).map fun p => encode p.name.toList) ∧
    (∃ places : List Nat, places.Pairwise (· < ·) ∧
      (∀ i, i ∈ places ↔ ∃ line, lines[i]? = some line ∧
        (2 ≤ i ∧ i + 1 < lines.length) ∧ 2 ≤ line.count '"') ∧
      List.Forall₂ (NamedBy lines) places (presets text)) ∧
    ∀ p ∈ presets text, ∀ c ∈ p.name.toList, isBlank c = false ∧ c ≠ '"' := by
  refine ⟨⟨Text.intercalate_pieces _, fun line => Text.not_mem_of_mem_pieces⟩, ?_,
    exists_naming_lines text, ?_⟩
  · rw [slicedNames_eq, presets, List.map_map]
    simp only [Function.comp_def, String.toList_ofList]
  · intro p hp c hc
    obtain ⟨name, hname, rfl⟩ := List.mem_map.mp hp
    rw [String.toList_ofList] at hc
    refine ⟨isBlank_of_mem_name hname hc, ?_⟩
    rintro rfl
    exact quote_not_mem_of_mem_names hname hc

/-- A line with other quotes and letters of two bytes around its name, a line with one quote, an
empty name, and a last line that is not looked at. -/
theorem presets_exact_wide :
    let text := "é\n\n *\"é\" \"ä\u2003b\" ü\n\"half\n\"\"\n\"last\""
    let lines := pieces '\n' text.toList
    " *\"é\" \"ä\u2003b\" ü".toList ∈ lines ∧ '\n' ∉ " *\"é\" \"ä\u2003b\" ü".toList ∧
      presets text = [⟨"äb"⟩, ⟨""⟩] ∧
      slicedNames text.toList = .ok [[0xC3, 0xA4, 0x62], []] ∧
      isBlank 'ä' = false ∧ 'ä' ≠ '"' := by
  intro text lines
  obtain ⟨⟨-, hlines⟩, hsliced, -, hnames⟩ := presets_exact text
  have hmem : " *\"é\" \"ä\u2003b\" ü".toList ∈ lines := by decide +kernel
  have hpresets : presets text = [⟨"äb"⟩, ⟨""⟩] := by decide +kernel
  have hshown := hnames ⟨"äb"⟩ (hpresets ▸ List.mem_cons_self) 'ä' (by decide +kernel)
  rw [hpresets] at hsliced
  exact ⟨hmem, hlines _ hmem, hpresets, hsliced.trans (by decide +kernel), hshown⟩

end PresetBuild.Listing
