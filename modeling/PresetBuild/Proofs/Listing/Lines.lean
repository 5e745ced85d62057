import Mathlib.Data.List.Basic
import Mathlib.Data.List.Forall2
import Mathlib.Data.List.ReduceOption
import PresetBuild.Listing

/-!
# The lines of a listing

What a line has to say is stated here apart from how it is read (`Gives`): the name between its last
two double quotes, whatever stands before them, or nothing where there are fewer than two. Reading
removes white space first and looks for the quotes then; since a quote is no white space, the name
found is the one that the line gives, without its white space (`Gives.name?_eq`).

A listing is written as two lines of heading, the lines of its presets and a last piece, with
newlines between them (`written`). The main statement, `presets_written`, is that reading takes back
what was written: the names that the lines give, in order, one for each line that gives one.
-/

namespace PresetBuild.Listing

open Text (isBlank)

/-! ## One line -/

/-- A text without its white space. -/
def unspaced (text : List Char) : List Char :=
  text.filter fun c => !isBlank c

/-- **What a line gives**: the name between its last two quotes, or nothing. -/
inductive Gives : List Char → Option (List Char) → Prop
  | name {before name after : List Char} (unquoted : '"' ∉ name) (bare : '"' ∉ after) :
      Gives (before ++ '"' :: name ++ '"' :: after) (some name)
  | nothing {text : List Char} (few : text.count '"' < 2) : Gives text none

theorem unspaced_append (xs ys : List Char) : unspaced (xs ++ ys) = unspaced xs ++ unspaced ys :=
  List.filter_append xs ys

/-- A quote is no white space. -/
theorem unspaced_quote (text : List Char) : unspaced ('"' :: text) = '"' :: unspaced text :=
  List.filter_cons_of_pos (by decide)

theorem not_mem_unspaced {c : Char} {text : List Char} (h : c ∉ text) : c ∉ unspaced text :=
  fun hmem => h (List.mem_of_mem_filter hmem)

theorem count_quote_unspaced (text : List Char) :
    (unspaced text).count '"' = text.count '"' :=
  List.count_filter (by decide)

/-- A text without white space is kept whole. -/
theorem unspaced_eq_self {text : List Char} (h : ∀ c ∈ text, isBlank c = false) :
    unspaced text = text := by
  apply List.filter_eq_self.mpr
  intro c hc
  rw [h c hc]
  rfl

/-- Removing white space leaves what a line gives, but for the white space in a name. -/
theorem Gives.unspaced {line : List Char} {given : Option (List Char)} (h : Gives line given) :
    Gives (unspaced line) (given.map unspaced) := by
  cases h with
  | name unquoted bare =>
    rw [unspaced_append, unspaced_append, unspaced_quote, unspaced_quote]
    exact .name (not_mem_unspaced unquoted) (not_mem_unspaced bare)
  | nothing few =>
    apply Gives.nothing
    rw [count_quote_unspaced]
    exact few

/-- **What is found between the last two quotes is what the line gives.** -/
theorem Gives.lastQuoted?_eq {line : List Char} {given : Option (List Char)}
    (h : Gives line given) : lastQuoted? line = given := by
  cases h with
  | @name before name after unquoted bare =>
    have hreverse : (before ++ '"' :: name ++ '"' :: after).reverse =
        after.reverse ++ '"' :: (name.reverse ++ '"' :: before.reverse) := by
      simp only [List.reverse_append, List.reverse_cons, List.append_assoc, List.cons_append,
        List.nil_append]
    have hclose : (after.reverse ++ '"' :: (name.reverse ++ '"' :: before.reverse)).dropWhile
        (· != '"') = '"' :: (name.reverse ++ '"' :: before.reverse) :=
      Text.dropWhile_append_separator (fun hmem => bare (List.mem_reverse.mp hmem)) _
    have hopen : (name.reverse ++ '"' :: before.reverse).takeWhile (· != '"') = name.reverse :=
      Text.takeWhile_append_separator (fun hmem => unquoted (List.mem_reverse.mp hmem)) _
    have hquoted : (name.reverse ++ '"' :: before.reverse).contains '"' = true :=
      List.contains_iff_mem.mpr (List.mem_append_right _ List.mem_cons_self)
    simp only [lastQuoted?, hreverse, hclose, hopen, hquoted, ↓reduceIte, List.reverse_reverse]
  | nothing few =>
    unfold lastQuoted?
    split
    · rfl
    · next c before hclose =>
      -- a closing quote and an opening one before it would be two
      refine if_neg fun hquoted => ?_
      have hc : c = '"' := Text.eq_of_dropWhile_eq_cons hclose
      have hcount : line.count '"' = (line.reverse.takeWhile (· != '"')).count '"'
          + (c :: before).count '"' := by
        rw [← hclose, ← List.count_append, List.takeWhile_append_dropWhile, List.count_reverse]
      have hbefore : 0 < before.count '"' :=
        List.count_pos_iff.mpr (List.contains_iff_mem.mp hquoted)
      rw [hc, List.count_cons_self] at hcount
      omega

/-- **A line is read as what it gives**, without white space. -/
theorem Gives.name?_eq {line : List Char} {given : Option (List Char)} (h : Gives line given) :
    name? line = given.map Listing.unspaced :=
  h.unspaced.lastQuoted?_eq

/-! ## Names -/

/-- What stands between the last two quotes of a text is made of characters of the text. -/
theorem subset_of_lastQuoted? {text name : List Char} (h : lastQuoted? text = some name) :
    name ⊆ text := by
  unfold lastQuoted? at h
  split at h
  · cases h
  · next close before hclose =>
    split at h
    · obtain rfl := Option.some.inj h
      intro c hc
      have hbefore : c ∈ before := (List.takeWhile_sublist _).subset (List.mem_reverse.mp hc)
      have hreverse : c ∈ text.reverse := by
        apply (List.dropWhile_sublist (· != '"')).subset
        rw [hclose]
        exact List.mem_cons_of_mem close hbefore
      exact List.mem_reverse.mp hreverse
    · cases h

/-- **A name has no white space.** -/
theorem isBlank_of_mem_name {text name : List Char} (h : name ∈ names text) {c : Char}
    (hc : c ∈ name) : isBlank c = false := by
  obtain ⟨line, -, hname⟩ := List.mem_filterMap.mp h
  have hmem : c ∈ line.filter fun c => !isBlank c := subset_of_lastQuoted? hname hc
  exact (Bool.not_eq_true' _).mp (List.mem_filter.mp hmem).2

/-! ## All lines -/

/-- **A listing written down**: two lines of heading, its lines, and a last piece. -/
def written (first second : List Char) (lines : List (List Char)) (last : List Char) : List Char :=
  List.intercalate ['\n'] (first :: second :: (lines ++ [last]))

variable {first second last : List Char} {lines : List (List Char)}

/-- The lines that may name a preset are those between the heading and the last piece. -/
theorem entryLines_written (h : ∀ l ∈ first :: second :: (lines ++ [last]), '\n' ∉ l) :
    entryLines (written first second lines last) = lines := by
  unfold entryLines written
  rw [Text.pieces_intercalate (List.cons_ne_nil _ _) h]
  show (lines ++ [last]).take ((lines ++ [last]).length - 1) = lines
  rw [List.length_append, List.length_singleton, Nat.add_sub_cancel, List.take_left]

theorem names_written (h : ∀ l ∈ first :: second :: (lines ++ [last]), '\n' ∉ l) :
    names (written first second lines last) = lines.filterMap name? := by
  rw [names, entryLines_written h]

/-- Lines are read one by one as what they give. -/
theorem filterMap_name?_eq {given : List (Option (List Char))}
    (h : List.Forall₂ Gives lines given) :
    lines.filterMap name? = given.reduceOption.map unspaced := by
  induction h with
  | nil => rfl
  | @cons line one lines given first _ ih =>
    rw [List.filterMap_cons, first.name?_eq, ih]
    cases one with
    | none => rfl
    | some name => rfl

/-- **Reading takes back what was written.** A listing's presets are the names that its lines give,
without their white space, in order and as often as they are given. A line that gives nothing
changes nothing, wherever it is put in. -/
theorem presets_written {given : List (Option (List Char))}
    (oneLine : ∀ l ∈ first :: second :: (lines ++ [last]), '\n' ∉ l)
    (gives : List.Forall₂ Gives lines given) :
    presets (String.ofList (written first second lines last)) =
      given.reduceOption.map (fun n => ⟨String.ofList (n.filter fun c => !isBlank c)⟩) ∧
    ∀ above below idle, lines = above ++ below → '\n' ∉ idle → idle.count '"' < 2 →
      presets (String.ofList (written first second (above ++ idle :: below) last)) =
        presets (String.ofList (written first second lines last)) := by
  have hnames := names_written oneLine
  constructor
  · rw [presets, String.toList_ofList, hnames, filterMap_name?_eq gives, List.map_map]
    rfl
  · rintro above below idle rfl hidle few
    have hwith : ∀ l ∈ first :: second :: ((above ++ idle :: below) ++ [last]), '\n' ∉ l := by
      intro l hl
      simp only [List.mem_cons, List.mem_append] at hl oneLine
      grind
    rw [presets, presets, String.toList_ofList, String.toList_ofList, hnames, names_written hwith,
      List.filterMap_append, List.filterMap_append, List.filterMap_cons,
      (Gives.nothing few).name?_eq]
    rfl

/-- A line with quotes in front of its name, a line that gives nothing, an empty name and one with
white space inside, beyond ASCII too. -/
theorem presets_written_mixed :
    let lines := ["\"é\" * \"a b\" - x".toList, "  \"half".toList, "\"\"".toList,
      "\"a\u2003b\"".toList]
    let text := String.ofList (written "heading".toList [] lines "rest".toList)
    presets text = [⟨"ab"⟩, ⟨""⟩, ⟨"ab"⟩] ∧
      presets (String.ofList (written "heading".toList []
        (lines.take 3 ++ "\"".toList :: lines.drop 3) "rest".toList)) = presets text := by
  intro lines text
  have gives : List.Forall₂ Gives lines
      [some "a b".toList, none, some [], some "a\u2003b".toList] :=
    .cons (@Gives.name "\"é\" * ".toList "a b".toList " - x".toList (by decide) (by decide))
      (.cons (.nothing (by decide))
      (.cons (@Gives.name [] [] [] (by decide) (by decide))
      (.cons (@Gives.name [] "a\u2003b".toList [] (by decide) (by decide)) .nil)))
  obtain ⟨hpresets, hidle⟩ :=
    @presets_written "heading".toList [] "rest".toList lines _ (by decide) gives
  refine ⟨hpresets.trans ?_, hidle _ _ "\"".toList (List.take_append_drop 3 lines).symm
    (by decide) (by decide)⟩
  decide

end PresetBuild.Listing
