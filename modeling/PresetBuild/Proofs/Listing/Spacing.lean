import PresetBuild.Proofs.Listing.Lines

/-!
# Listings spaced out

White space in a listing says nothing, but for the newlines. Listings that are the same once all
other white space is deleted give the same presets, whatever stands where: in the heading, before or
behind a name, between its quotes, in the last piece (`presets_spaced_alike`). So a listing may have
its lines ended by returns and newlines, and any line of it indented, padded or set with tabs.

The white space of a line is deleted before its quotes are looked for. Deleting it in the whole text
first, newlines kept, comes to the same: the pieces of what is left are the pieces of the text, each
without its white space (`pieces_squeezed`).
-/

namespace PresetBuild.Listing

open Text (isBlank pieces)

/-- A text without its white space, but with its newlines. -/
def squeezed (text : List Char) : List Char :=
  text.filter fun c => c == '\n' || !isBlank c

/-- A text with a return before each newline. -/
def returned (text : List Char) : List Char :=
  text.flatMap fun c => if c = '\n' then ['\r', '\n'] else [c]

/-- **A text spaced out**: white space is put in anywhere, but no newlines. -/
inductive Spaced : List Char → List Char → Prop
  | nil : Spaced [] []
  | keep {c : Char} {text wide : List Char} (rest : Spaced text wide) :
      Spaced (c :: text) (c :: wide)
  | blank {c : Char} {text wide : List Char} (white : isBlank c = true) (inside : c ≠ '\n')
      (rest : Spaced text wide) : Spaced text (c :: wide)

variable {text wide : List Char} {c : Char}

/-! ## Texts squeezed -/

theorem squeezed_newline (text : List Char) : squeezed ('\n' :: text) = '\n' :: squeezed text :=
  List.filter_cons_of_pos rfl

theorem squeezed_blank (white : isBlank c = true) (inside : c ≠ '\n') (text : List Char) :
    squeezed (c :: text) = squeezed text :=
  List.filter_cons_of_neg (by simp [white, inside])

theorem squeezed_shown (shown : isBlank c = false) (text : List Char) :
    squeezed (c :: text) = c :: squeezed text :=
  List.filter_cons_of_pos (by simp [shown])

/-- Spacing a text out leaves the same text to be squeezed. -/
theorem Spaced.squeezed_eq (h : Spaced text wide) : squeezed wide = squeezed text := by
  induction h with
  | nil => rfl
  | keep rest ih =>
    unfold squeezed at ih ⊢
    rw [List.filter_cons, List.filter_cons, ih]
  | blank white inside rest ih => rw [squeezed_blank white inside, ih]

theorem Spaced.refl (text : List Char) : Spaced text text := by
  induction text with
  | nil => exact .nil
  | cons c text ih => exact .keep ih

/-- White space put in at one place. -/
theorem spaced_insert {blanks : List Char} (white : ∀ c ∈ blanks, isBlank c = true ∧ c ≠ '\n')
    (before after : List Char) : Spaced (before ++ after) (before ++ blanks ++ after) := by
  induction before with
  | nil =>
    induction blanks with
    | nil => exact .refl after
    | cons c blanks ih =>
      obtain ⟨hwhite, hinside⟩ := white c List.mem_cons_self
      exact .blank hwhite hinside (ih fun d hd => white d (List.mem_cons_of_mem c hd))
  | cons c before ih => exact .keep ih

/-- Returns before the newlines are white space put in. -/
theorem spaced_returned (text : List Char) : Spaced text (returned text) := by
  induction text with
  | nil => exact .nil
  | cons c text ih =>
    rw [returned, List.flatMap_cons]
    split
    · next h =>
      rw [h]
      exact .blank (by decide) (by decide) (.keep ih)
    · exact .keep ih

/-! ## What is read -/

theorem unspaced_blank (white : isBlank c = true) (line : List Char) :
    unspaced (c :: line) = unspaced line :=
  List.filter_cons_of_neg (by simp [white])

theorem unspaced_shown (shown : isBlank c = false) (line : List Char) :
    unspaced (c :: line) = c :: unspaced line :=
  List.filter_cons_of_pos (by simp [shown])

/-- **The pieces of a squeezed text** are those of the text, each without its white space. By
induction on the text: a character that is no newline comes to stand in the first piece. -/
theorem pieces_squeezed (text : List Char) :
    pieces '\n' (squeezed text) = (pieces '\n' text).map unspaced := by
  induction text with
  | nil => rfl
  | cons c text ih =>
    by_cases hc : c = '\n'
    · rw [hc, squeezed_newline, pieces, if_pos rfl, pieces, if_pos rfl, ih]
      rfl
    rw [Text.pieces_cons_of_ne hc]
    cases hpieces : pieces '\n' text with
    | nil => exact absurd hpieces (Text.pieces_ne_nil _ _)
    | cons piece others =>
      rw [hpieces] at ih
      cases hblank : isBlank c with
      | true =>
        rw [squeezed_blank hblank hc, ih, List.modifyHead_cons, List.map_cons, List.map_cons,
          unspaced_blank hblank]
      | false =>
        rw [squeezed_shown hblank, Text.pieces_cons_of_ne hc, ih, List.modifyHead_cons,
          List.map_cons, List.map_cons, List.modifyHead_cons, unspaced_shown hblank]

theorem entryLines_squeezed (text : List Char) :
    entryLines (squeezed text) = (entryLines text).map unspaced := by
  simp only [entryLines, pieces_squeezed, List.map_take, List.map_drop, List.length_drop,
    List.length_map]

/-- A line without its white space names what the line names. -/
theorem name?_unspaced (line : List Char) : name? (unspaced line) = name? line := by
  rw [name?, name?, unspaced, List.filter_filter]
  simp only [Bool.and_self]

/-- **What a squeezed text names** is what the text names. -/
theorem names_squeezed (text : List Char) : names (squeezed text) = names text := by
  rw [names, names, entryLines_squeezed, List.filterMap_map]
  exact List.filterMap_congr fun line _ => name?_unspaced line

/-- **Listings that differ in white space give the same presets**, if their newlines are the same: a
text that is the same once squeezed, the text with returns before its newlines, and the text with
any white space put in anywhere. -/
theorem presets_spaced_alike (text : String) :
    (∀ other : String, squeezed other.toList = squeezed text.toList →
      presets other = presets text) ∧
    presets (String.ofList (returned text.toList)) = presets text ∧
    ∀ other : String, Spaced text.toList other.toList → presets other = presets text := by
  have alike : ∀ other : String, squeezed other.toList = squeezed text.toList →
      presets other = presets text := by
    intro other h
    rw [presets, presets, ← names_squeezed, h, names_squeezed]
  refine ⟨alike, alike _ ?_, fun other h => alike other h.squeezed_eq⟩
  rw [String.toList_ofList]
  exact (spaced_returned text.toList).squeezed_eq

/-- A listing with tabs for its blanks and wide white space in its name, one with returns, and one
with a line indented. -/
theorem presets_spaced_alike_wide :
    let text := "Available presets:\n\n  \"linux debug\"\n"
    let wide := "Available\tpresets:\n\u2003\n\t\"linux\u3000debug\"\n\u00a0"
    let indented := "Available presets:\n\n\t\u205f  \"linux debug\"\n"
    presets text = [⟨"linuxdebug"⟩] ∧
      squeezed wide.toList = squeezed text.toList ∧ presets wide = presets text ∧
      presets (String.ofList (returned text.toList)) = presets text ∧
      Spaced text.toList indented.toList ∧ presets indented = presets text := by
  intro text wide indented
  obtain ⟨hsqueezed, hreturned, hspaced⟩ := presets_spaced_alike text
  have hwide : squeezed wide.toList = squeezed text.toList := by decide +kernel
  have hindented : Spaced text.toList indented.toList := by
    have white : ∀ c ∈ ['\t', '\u205f'], isBlank c = true ∧ c ≠ '\n' := by
      intro c hc
      simp only [List.mem_cons, List.not_mem_nil, or_false] at hc
      rcases hc with rfl | rfl
      · decide
      · decide
    have htext : text.toList =
        "Available presets:\n\n".toList ++ "  \"linux debug\"\n".toList := by
      decide +kernel
    have hpadded : indented.toList = "Available presets:\n\n".toList ++ ['\t', '\u205f'] ++
        "  \"linux debug\"\n".toList := by
      decide +kernel
    rw [htext, hpadded]
    exact spaced_insert white _ _
  exact ⟨by decide +kernel, hwide, hsqueezed wide hwide, hreturned, hindented,
    hspaced indented hindented⟩

end PresetBuild.Listing
