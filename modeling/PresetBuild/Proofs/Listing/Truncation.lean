import Mathlib.Data.List.Infix
import Mathlib.Data.List.TakeDrop
import PresetBuild.Proofs.Listing.Lines

/-!
# Listings cut short

A listing may stop anywhere: in its heading, inside a name, right before the end of a line. What is
read from such a listing is the beginning of what the whole one would give (`presets_of_cut`). No
name is made up and none is changed, and as long as every newline is still there none is lost.

The reason is that the piece behind the last newline, the one piece that a cut can change, is never
read. The pieces that a newline ends stay as they are, whatever comes behind them
(`Text.ended_prefix_append`).
-/

namespace PresetBuild.Text

variable {separator : Char}

/-- **The pieces that a separator ends**: all but the last. -/
def ended (separator : Char) (text : List Char) : List (List Char) :=
  (pieces separator text).dropLast

theorem ended_cons_self (rest : List Char) :
    ended separator (separator :: rest) = [] :: ended separator rest := by
  rw [ended, pieces, if_pos rfl, List.dropLast_cons_of_ne_nil (pieces_ne_nil separator rest)]
  rfl

/-- Any other character goes to the first piece, if a separator ends it. -/
theorem ended_cons_ne {c : Char} (h : c ≠ separator) (rest : List Char) :
    ended separator (c :: rest) = (ended separator rest).modifyHead (c :: ·) := by
  rw [ended, pieces_cons_of_ne h, ← List.modifyHead_dropLast]
  rfl

theorem length_ended (text : List Char) :
    (ended separator text).length = text.count separator := by
  rw [ended, List.length_dropLast, length_pieces, Nat.add_sub_cancel]

/-- **What comes behind a text changes none of its ended pieces**, by induction on the text. -/
theorem ended_prefix_append (text more : List Char) :
    ended separator text <+: ended separator (text ++ more) := by
  induction text with
  | nil => exact List.nil_prefix
  | cons c text ih =>
    rw [List.cons_append]
    by_cases hc : c = separator
    · subst hc
      rw [ended_cons_self, ended_cons_self]
      exact (List.prefix_cons_inj []).mpr ih
    · rw [ended_cons_ne hc, ended_cons_ne hc]
      obtain ⟨others, hothers⟩ := ih
      rw [← hothers]
      cases ended separator text with
      | nil => exact List.nil_prefix
      | cons piece ended => exact List.prefix_append _ others

end PresetBuild.Text

namespace PresetBuild.Listing

/-- What may name a preset is a line that a newline ends, behind the heading. -/
theorem presets_eq_ended (text : String) :
    presets text = (((Text.ended '\n' text.toList).drop headerLines).filterMap name?).map
      fun n => ⟨String.ofList n⟩ := by
  rw [presets, names, entryLines, footerLines, ← List.dropLast_eq_take,
    List.dropLast_drop_eq_drop_dropLast]
  rfl

/-- **A listing that is cut short gives the beginning of what it gives whole**, wherever it is cut.
Where the cut takes no newline away, it gives all of that. -/
theorem presets_of_cut {cut text : String} (h : cut.toList <+: text.toList) :
    presets cut <+: presets text ∧
    (cut.toList.count '\n' = text.toList.count '\n' → presets cut = presets text) := by
  have hended : Text.ended '\n' cut.toList <+: Text.ended '\n' text.toList := by
    obtain ⟨more, hmore⟩ := h
    rw [← hmore]
    exact Text.ended_prefix_append cut.toList more
  rw [presets_eq_ended, presets_eq_ended]
  constructor
  · exact ((hended.drop headerLines).filterMap name?).map _
  · intro hcount
    have hsame : Text.ended '\n' cut.toList = Text.ended '\n' text.toList := by
      apply hended.eq_of_length
      rw [Text.length_ended, Text.length_ended, hcount]
    rw [hsame]

/-- A listing cut inside its second name, and cut right before the end of that name's line. -/
theorem presets_of_cut_inside_name :
    let whole := "Available configure presets:\n\n  \"linux-debug\"\n  \"linux-release\"\n"
    let inside := "Available configure presets:\n\n  \"linux-debug\"\n  \"linux-re"
    let behind := "Available configure presets:\n\n  \"linux-debug\"\n  \"linux-release\""
    inside.toList <+: whole.toList ∧ inside.toList <+: behind.toList ∧
      presets whole = [⟨"linux-debug"⟩, ⟨"linux-release"⟩] ∧ presets inside = [⟨"linux-debug"⟩] ∧
      presets inside <+: presets whole ∧ presets inside = presets behind := by
  intro whole inside behind
  have hinside : inside.toList <+: whole.toList := by decide +kernel
  have hbehind : inside.toList <+: behind.toList := by decide +kernel
  exact ⟨hinside, hbehind, by decide +kernel, by decide +kernel, (presets_of_cut hinside).1,
    (presets_of_cut hbehind).2 (by decide +kernel)⟩

end PresetBuild.Listing
