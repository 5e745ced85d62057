import Mathlib.Data.List.Basic
import PresetBuild.Proofs.Arguments.Recognition
import PresetBuild.Proofs.Sifting
import PresetBuild.Proofs.Text.Lowered

/-!
# The arguments sorted

All texts of a command line are sorted before anything is read from them. The sorting loses nothing
and changes no order: each text in turn is kept, or set aside as it is (`arguments_sorted`). What is
kept of a text is said here by its letters as they are written (`KeptAs`): a text that is no flag at
all is kept as it is, and a known flag in the lower case of its whole text, the value included. What
is set aside are the unknown flags.

The program compares the lower case of the whole text up to the first equals sign *there*. That the
text's own letters up to its own first equals sign decide is `takeWhile_lowercase_eq_name_iff`; from
it comes that no sign beyond ASCII helps to name a flag.

What is kept is kept again as it is (`kept_arguments_stay`): a flag's text is in lower case, and
lower case taken twice is lower case (`Text.lowercase_lowercase`).
-/

namespace PresetBuild

/-- **What a text is kept as**: itself, unless it begins with two dashes and goes on; and where it
does and names a flag, in any mixture of cases, its lower case. -/
inductive KeptAs (text : String) : String → Prop
  | verbatim (plain : "--".toList <+: text.toList → text = "--") : KeptAs text text
  | flag {f : LongFlag} {kept : String} (dashed : "--".toList <+: text.toList)
      (longer : text ≠ "--")
      (named : (text.toList.takeWhile (· != '=')).map Char.toLower = f.name.toList)
      (lowered : kept.toList = Text.lowercase text.toList) : KeptAs text kept

variable {text kept : String} {lower : List Char} {f : LongFlag}

/-! ## What is kept -/

/-- What is behind the name of a flag is an equals sign with the value, if there is one. -/
theorem text_flag_toList (name : lower.takeWhile (· != '=') = f.name.toList) :
    (Argument.flag f (Argument.valueOf lower)).text.toList = lower := by
  have hcut := List.takeWhile_append_dropWhile (p := (· != '=')) (l := lower)
  rw [name] at hcut
  cases hrest : lower.dropWhile (· != '=') with
  | nil =>
    rw [hrest, List.append_nil] at hcut
    simp [Argument.valueOf, hrest, Argument.text, hcut]
  | cons c rest =>
    rw [hrest, Text.eq_of_dropWhile_eq_cons hrest] at hcut
    simp [Argument.valueOf, hrest, Argument.text, hcut]

/-- What a text is kept as is the text of the argument that it is. -/
theorem keptAs_iff : KeptAs text kept ↔ (Argument.ofText? text).map Argument.text = some kept := by
  rw [Option.map_eq_some_iff]
  constructor
  · intro h
    cases h with
    | verbatim plain => exact ⟨.plain text, ofText?_eq_plain_iff.mpr ⟨plain, rfl⟩, rfl⟩
    | @flag f _ dashed longer named lowered =>
      refine ⟨_, ofText?_eq_flag_iff.mpr ⟨⟨dashed, longer⟩, named, rfl⟩, ?_⟩
      rw [← String.toList_inj, lowered]
      exact text_flag_toList ((takeWhile_lowercase_eq_name_iff _ f).mpr named)
  · rintro ⟨argument, hargument, rfl⟩
    cases argument with
    | flag f value =>
      obtain ⟨⟨hdashed, hlonger⟩, hnamed, rfl⟩ := ofText?_eq_flag_iff.mp hargument
      apply KeptAs.flag hdashed hlonger hnamed
      exact text_flag_toList ((takeWhile_lowercase_eq_name_iff _ f).mpr hnamed)
    | plain other =>
      obtain ⟨hplain, rfl⟩ := ofText?_eq_plain_iff.mp hargument
      exact .verbatim hplain

/-- **The sorting loses nothing.** Each text in turn is either kept, as itself or as a known flag in
lower case, or set aside as it is, an unknown flag. A text kept as a flag is the flag that its own
letters name in a mixture of cases, and what is kept begins with the name of this flag and no other;
there is nothing but ASCII before its first equals sign. -/
theorem arguments_sorted (texts : List String) :
    (∀ kept aside : List String,
      Sifted KeptAs UnknownFlag texts kept aside ↔
        (Argument.sort texts).1.map Argument.text = kept ∧ (Argument.sort texts).2 = aside) ∧
      ∀ text ∈ texts, ∀ f value, Argument.ofText? text = some (.flag f value) →
        (text.toList.takeWhile (· != '=')).map Char.toLower = f.name.toList ∧
        (Argument.flag f value).text.toList.takeWhile (· != '=') = f.name.toList ∧
        ∀ c ∈ text.toList.takeWhile (· != '='), c.toNat < 128 := by
  constructor
  · intro kept aside
    have haside (text : String) :
        UnknownFlag text ↔ (Argument.ofText? text).map Argument.text = none := by
      rw [Option.map_eq_none_iff, ofText?_eq_none_iff]
    rw [sifted_iff (f := fun t => (Argument.ofText? t).map Argument.text)
      (fun _ _ => keptAs_iff) haside, Argument.sort, List.map_filterMap]
    simp only [Option.isNone_map]
  · intro text _ f value h
    obtain ⟨-, hnamed, rfl⟩ := ofText?_eq_flag_iff.mp h
    have hlower := (takeWhile_lowercase_eq_name_iff text.toList f).mpr hnamed
    exact ⟨hnamed, by rw [text_flag_toList hlower, hlower], f.isKeyword_name.ascii hnamed⟩

/-- A value with a sigma at its end is kept in lower case, and a dotted capital I is no letter of a
flag's name. -/
theorem arguments_sorted_sigma :
    let texts := ["pbuild", "--COMPLETIONS=ΑΣ", "--\u0130nstall", "--"]
    "--COMPLETIONS=ΑΣ" ∈ texts ∧
      Argument.ofText? "--COMPLETIONS=ΑΣ" = some (.flag .completions (some "ας")) ∧
      Sifted KeptAs UnknownFlag texts ["pbuild", "--completions=ας", "--"] ["--\u0130nstall"] ∧
      ∀ c ∈ "--COMPLETIONS=ΑΣ".toList.takeWhile (· != '='), c.toNat < 128 := by
  intro texts
  have hmem : "--COMPLETIONS=ΑΣ" ∈ texts := by simp [texts]
  have hflag : Argument.ofText? "--COMPLETIONS=ΑΣ" = some (.flag .completions (some "ας")) := by
    decide +kernel
  obtain ⟨hsifted, hnamed⟩ := arguments_sorted texts
  obtain ⟨-, -, hascii⟩ := hnamed _ hmem _ _ hflag
  refine ⟨hmem, hflag, (hsifted _ _).mpr ⟨?_, ?_⟩, hascii⟩
  · decide +kernel
  · decide +kernel

/-! ## Sorted again -/

variable {argument : Argument}

/-- A text that names a flag goes on behind its dashes. -/
theorem LongFlag.dashed_of_takeWhile (h : lower.takeWhile (· != '=') = f.name.toList) :
    "--".toList <+: lower ∧ lower ≠ "--".toList := by
  have hname : "--".toList <+: f.name.toList ∧ f.name.toList ≠ "--".toList := by
    cases f with
    | switch s => cases s <;> decide
    | completions => decide
    | help => decide
    | version => decide
  rw [← h] at hname
  refine ⟨hname.1.trans (List.takeWhile_prefix _), ?_⟩
  rintro rfl
  exact hname.2 rfl

/-- **An argument is read from its own text**, if it was read from any. -/
theorem ofText?_text (h : Argument.ofText? text = some argument) :
    Argument.ofText? argument.text = some argument := by
  cases argument with
  | plain other =>
    obtain ⟨-, rfl⟩ := ofText?_eq_plain_iff.mp h
    exact h
  | flag f value =>
    obtain ⟨-, hnamed, rfl⟩ := ofText?_eq_flag_iff.mp h
    have hlower := (takeWhile_lowercase_eq_name_iff text.toList f).mpr hnamed
    have htext := text_flag_toList hlower
    have hagain : Text.lowercase (Text.lowercase text.toList) = Text.lowercase text.toList :=
      Text.lowercase_lowercase text.toList
    obtain ⟨hdashed, hlonger⟩ := LongFlag.dashed_of_takeWhile hlower
    rw [ofText?_eq_flag_iff, ← takeWhile_lowercase_eq_name_iff, ne_eq, ← String.toList_inj, htext,
      hagain]
    exact ⟨⟨hdashed, hlonger⟩, hlower, rfl⟩

/-- **What is kept is kept again as it is**, and nothing of it is set aside: the texts of the
arguments that some texts come to, sorted once more, come to the same arguments. -/
theorem kept_arguments_stay (texts : List String) :
    let kept := (Argument.sort texts).1
    Argument.sort (kept.map Argument.text) = (kept, []) := by
  intro kept
  have hkept : ∀ argument ∈ kept, Argument.ofText? argument.text = some argument := by
    intro argument hmem
    obtain ⟨text, -, htext⟩ := List.mem_filterMap.mp hmem
    exact ofText?_text htext
  unfold Argument.sort
  rw [Prod.mk.injEq]
  constructor
  · rw [List.filterMap_map]
    exact (List.filterMap_congr hkept).trans List.filterMap_some
  · rw [List.filter_eq_nil_iff]
    intro text hmem
    obtain ⟨argument, hargument, rfl⟩ := List.mem_map.mp hmem
    rw [hkept argument hargument]
    exact Bool.false_ne_true

end PresetBuild
