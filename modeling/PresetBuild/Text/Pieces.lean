/-!
# Texts cut at a separator

`pieces` cuts a text at every occurrence of one character. The pieces hold everything but the
separators, in order, and there is always one piece more than there are separators, so that the
empty text is one empty piece.

Cutting undoes joining: parts without the separator, joined with it, are cut into themselves
again (`pieces_intercalate`). Where a mark is put before each separator they are still told apart,
whatever the mark (`intercalate_marked_inj`). Joining undoes cutting as well (`intercalate_pieces`).
Where a text is cut only once, what is before its first separator is told apart from what is behind
it.
-/

namespace PresetBuild.Text

/-- **The pieces of a text** between the occurrences of a separator. -/
def pieces (separator : Char) : List Char → List (List Char)
  | [] => [[]]
  | c :: rest =>
    if c = separator then [] :: pieces separator rest
    else match pieces separator rest with
      | [] => [[c]]
      | piece :: others => (c :: piece) :: others

/-- There is always a piece. -/
theorem pieces_ne_nil (separator : Char) (text : List Char) : pieces separator text ≠ [] := by
  cases text with
  | nil => simp [pieces]
  | cons c rest =>
    simp only [pieces]
    split
    · simp
    · split <;> simp

/-- Any other character goes to the first piece. -/
theorem pieces_cons_of_ne {separator c : Char} (h : c ≠ separator) (rest : List Char) :
    pieces separator (c :: rest) = (pieces separator rest).modifyHead (c :: ·) := by
  rw [pieces, if_neg h]
  cases hrest : pieces separator rest with
  | nil => exact absurd hrest (pieces_ne_nil separator rest)
  | cons piece others => rfl

/-- There is one piece more than there are separators. -/
theorem length_pieces (separator : Char) (text : List Char) :
    (pieces separator text).length = text.count separator + 1 := by
  induction text with
  | nil => simp [pieces]
  | cons c rest ih =>
    by_cases h : c = separator
    · subst h
      simp [pieces, ih]
    · simp only [pieces, if_neg h, List.count_cons_of_ne h]
      split
      · next hnil => exact absurd hnil (pieces_ne_nil separator rest)
      · next piece others hcons =>
        rw [hcons] at ih
        simpa using ih

/-! ## Parts joined and cut again -/

section Joined

variable {separator : Char}

/-- A text without the separator is one piece. -/
theorem pieces_of_not_mem {text : List Char} (h : separator ∉ text) :
    pieces separator text = [text] := by
  induction text with
  | nil => rfl
  | cons c rest ih =>
    obtain ⟨hc, hrest⟩ := not_or.mp fun hmem => h (List.mem_cons.mpr hmem)
    rw [pieces, if_neg (Ne.symm hc), ih hrest]

/-- A piece ends at the first separator. -/
theorem pieces_append {part : List Char} (h : separator ∉ part) (rest : List Char) :
    pieces separator (part ++ separator :: rest) = part :: pieces separator rest := by
  induction part with
  | nil => rw [List.nil_append, pieces, if_pos rfl]
  | cons c part ih =>
    obtain ⟨hc, hpart⟩ := not_or.mp fun hmem => h (List.mem_cons.mpr hmem)
    rw [List.cons_append, pieces, if_neg (Ne.symm hc), ih hpart]

/-- **Parts that are joined with the separator are cut into these parts again**, if the separator is
in none of them and there is at least one. -/
theorem pieces_intercalate {parts : List (List Char)} (hne : parts ≠ [])
    (h : ∀ part ∈ parts, separator ∉ part) :
    pieces separator (List.intercalate [separator] parts) = parts := by
  induction parts with
  | nil => exact absurd rfl hne
  | cons part others ih =>
    have hpart : separator ∉ part := h part List.mem_cons_self
    cases others with
    | nil => rw [List.intercalate_singleton, pieces_of_not_mem hpart]
    | cons next others =>
      have hothers := ih (List.cons_ne_nil _ _) fun p hp => h p (List.mem_cons_of_mem _ hp)
      rw [List.intercalate_cons_cons, List.append_assoc, List.singleton_append, pieces_append hpart,
        hothers]

/-- **Parts that are joined with a mark and the separator** are cut into these parts again, each but
the last with the mark behind it. -/
theorem pieces_intercalate_marked {mark : List Char} (hmark : separator ∉ mark)
    {parts : List (List Char)} (hne : parts ≠ []) (h : ∀ part ∈ parts, separator ∉ part) :
    pieces separator (List.intercalate (mark ++ [separator]) parts) =
      parts.dropLast.map (· ++ mark) ++ [parts.getLast hne] := by
  induction parts with
  | nil => exact absurd rfl hne
  | cons part others ih =>
    have hpart : separator ∉ part := h part List.mem_cons_self
    cases others with
    | nil =>
      rw [List.intercalate_singleton, pieces_of_not_mem hpart]
      rfl
    | cons next others =>
      have hmarked : separator ∉ part ++ mark := by simp [hpart, hmark]
      have hothers := ih (List.cons_ne_nil _ _) fun p hp => h p (List.mem_cons_of_mem _ hp)
      rw [List.intercalate_cons_cons, ← List.append_assoc, List.append_assoc,
        List.singleton_append, pieces_append hmarked, hothers, List.getLast_cons_cons]
      rfl

/-- Parts without the separator are told apart where a mark and the separator join them. -/
theorem intercalate_marked_inj (mark : List Char) (hmark : separator ∉ mark)
    {parts others : List (List Char)} (hparts : parts ≠ []) (hothers : others ≠ [])
    (h : ∀ part ∈ parts, separator ∉ part) (h' : ∀ part ∈ others, separator ∉ part)
    (heq : List.intercalate (mark ++ [separator]) parts =
      List.intercalate (mark ++ [separator]) others) : parts = others := by
  have hpieces := congrArg (pieces separator) heq
  rw [pieces_intercalate_marked hmark hparts h,
    pieces_intercalate_marked hmark hothers h'] at hpieces
  obtain ⟨hfront, hlast⟩ := List.append_inj' hpieces rfl
  have hfront : parts.dropLast = others.dropLast :=
    (List.map_inj_right fun _ _ hmarked => List.append_cancel_right hmarked).mp hfront
  rw [← List.dropLast_concat_getLast hparts, ← List.dropLast_concat_getLast hothers, hfront, hlast]

/-- **The pieces of a text are joined to the text again**, with the separator between them. -/
theorem intercalate_pieces (text : List Char) :
    List.intercalate [separator] (pieces separator text) = text := by
  induction text with
  | nil => rfl
  | cons c rest ih =>
    obtain ⟨piece, others, hpieces⟩ := List.exists_cons_of_ne_nil (pieces_ne_nil separator rest)
    by_cases hc : c = separator
    · rw [pieces, if_pos hc, hpieces, List.intercalate_cons_cons, ← hpieces, ih, hc]
      rfl
    · rw [pieces_cons_of_ne hc, hpieces, List.modifyHead_cons]
      rw [hpieces] at ih
      cases others with
      | nil => rw [List.intercalate_singleton] at ih ⊢; rw [ih]
      | cons next others =>
        rw [List.intercalate_cons_cons] at ih ⊢
        rw [List.cons_append, List.cons_append, ih]

/-- There is no separator in a piece. -/
theorem not_mem_of_mem_pieces {text piece : List Char} (h : piece ∈ pieces separator text) :
    separator ∉ piece := by
  induction text generalizing piece with
  | nil => simp_all [pieces]
  | cons c rest ih =>
    by_cases hc : c = separator
    · rw [pieces, if_pos hc] at h
      rcases List.mem_cons.mp h with rfl | h
      · exact List.not_mem_nil
      · exact ih h
    · rw [pieces_cons_of_ne hc] at h
      obtain ⟨first, others, hpieces⟩ := List.exists_cons_of_ne_nil (pieces_ne_nil separator rest)
      rw [hpieces] at h ih
      rcases List.mem_cons.mp h with rfl | h
      · exact List.not_mem_cons_of_ne_of_not_mem (Ne.symm hc) (ih List.mem_cons_self)
      · exact ih (List.mem_cons_of_mem first h)

/-- Parts joined with nothing behind the last separator are parts that each end with one. -/
theorem intercalate_concat_nil (parts : List (List Char)) :
    List.intercalate [separator] (parts ++ [[]]) = parts.flatMap (· ++ [separator]) := by
  induction parts with
  | nil => rfl
  | cons part others ih =>
    cases others with
    | nil => exact List.intercalate_cons_cons
    | cons next others =>
      rw [List.cons_append, List.cons_append, List.intercalate_cons_cons, ← List.cons_append, ih]
      rfl

end Joined

/-! ## The first separator -/

section First

variable {separator : Char} {text front : List Char}

/-- No character of a text without the separator ends the search for one. -/
theorem passes_of_not_mem (h : separator ∉ text) : ∀ c ∈ text, (c != separator) = true := by
  intro c hc
  apply bne_iff_ne.mpr
  rintro rfl
  exact h hc

/-- What is before the first separator. -/
theorem takeWhile_append_separator (h : separator ∉ front) (rest : List Char) :
    (front ++ separator :: rest).takeWhile (· != separator) = front := by
  simp [List.takeWhile_append_of_pos (passes_of_not_mem h)]

/-- What is from the first separator on. -/
theorem dropWhile_append_separator (h : separator ∉ front) (rest : List Char) :
    (front ++ separator :: rest).dropWhile (· != separator) = separator :: rest := by
  simp [List.dropWhile_append_of_pos (passes_of_not_mem h)]

/-- A text without the separator is before it as a whole. -/
theorem takeWhile_eq_self (h : separator ∉ text) : text.takeWhile (· != separator) = text := by
  have hwhole : (text ++ []).takeWhile (· != separator) = text ++ [] :=
    List.takeWhile_append_of_pos (passes_of_not_mem h)
  rwa [List.append_nil] at hwhole

/-- The search for the separator ends at the separator. -/
theorem eq_of_dropWhile_eq_cons {c : Char} {rest : List Char}
    (h : text.dropWhile (· != separator) = c :: rest) : c = separator := by
  have hhead := List.head?_dropWhile_not (· != separator) text
  simpa [h] using hhead

/-- A text begins with a name and the separator if the name is before its first one. -/
theorem concat_prefix_iff {name : List Char} (h : separator ∉ name) :
    name ++ [separator] <+: text ↔ text.takeWhile (· != separator) = name ∧ separator ∈ text := by
  constructor
  · rintro ⟨rest, rfl⟩
    rw [List.append_assoc, List.singleton_append]
    exact ⟨takeWhile_append_separator h rest, by simp⟩
  · rintro ⟨hname, hmem⟩
    obtain ⟨front, rest, rfl, hfront⟩ := List.eq_append_cons_of_mem hmem
    rw [takeWhile_append_separator hfront] at hname
    exact ⟨rest, by simp [hname]⟩

/-- **The last separator of a text**: there is none behind it. -/
theorem exists_last_separator (h : separator ∈ text) :
    ∃ front rest, text = front ++ separator :: rest ∧ separator ∉ rest := by
  obtain ⟨rest, front, hreverse, hrest⟩ := List.eq_append_cons_of_mem (List.mem_reverse.mpr h)
  refine ⟨front.reverse, rest.reverse, ?_, fun hmem => hrest (List.mem_reverse.mp hmem)⟩
  rw [← List.reverse_reverse text, hreverse]
  simp

end First

end PresetBuild.Text
