import Mathlib.Data.List.TakeWhile
import PresetBuild.Proofs.Arguments.Interleaving
import PresetBuild.Proofs.Text.Lowercase

/-!
# Which texts are flags

A text is a flag if it begins with two dashes and goes on, and what stands before its first equals
sign is the name of a flag, in any mixture of cases (`ofText?_eq_flag_iff`). It is set aside exactly
if it begins so and is the name of no flag (`ofText?_eq_none_iff`). The program takes the lower case
of the whole text, by the rules of Unicode, and cuts it; what it recognises is nevertheless said
here by the letters as they are written, one by one. No character beyond ASCII can stand in for one
of a flag's name.
-/

namespace PresetBuild

/-- **An unknown flag**: a text of two dashes and more that is the name of no flag up to its first
equals sign, in any mixture of cases. -/
structure UnknownFlag (text : String) : Prop where
  dashed : "--".toList <+: text.toList
  longer : text ≠ "--"
  unknown : ∀ f : LongFlag,
    (text.toList.takeWhile (· != '=')).map Char.toLower ≠ f.name.toList

/-! ## The names of flags -/

/-- The names of flags are keywords. -/
theorem LongFlag.isKeyword_name (f : LongFlag) : Text.IsKeyword f.name.toList := by
  cases f with
  | switch s => exact s.isKeyword_name
  | completions => decide
  | help => decide
  | version => decide

theorem LongFlag.ofName?_name (f : LongFlag) : LongFlag.ofName? f.name.toList = some f := by
  cases f with
  | switch s => cases s <;> rfl
  | completions => rfl
  | help => rfl
  | version => rfl

theorem LongFlag.mem_all (f : LongFlag) : f ∈ LongFlag.all :=
  List.mem_of_find?_eq_some f.ofName?_name

/-- A flag is found by its name and by no other. -/
theorem LongFlag.ofName?_eq_some_iff {f : LongFlag} {name : List Char} :
    LongFlag.ofName? name = some f ↔ name = f.name.toList := by
  constructor
  · intro h
    have hname := List.find?_some (p := fun g : LongFlag => g.name.toList == name) h
    simpa using (beq_iff_eq.mp hname).symm
  · rintro rfl
    exact f.ofName?_name

/-- A name is found to be that of no flag exactly if it is that of none. -/
theorem LongFlag.ofName?_eq_none_iff {name : List Char} :
    LongFlag.ofName? name = none ↔ ∀ f : LongFlag, f.name.toList ≠ name := by
  rw [LongFlag.ofName?, List.find?_eq_none]
  constructor
  · intro h f heq
    exact h f f.mem_all (beq_iff_eq.mpr heq)
  · intro h f _ heq
    exact h f (beq_iff_eq.mp heq)

/-! ## Single texts -/

variable {text : String} {lower : List Char} {f : LongFlag} {value : Option String}

/-- The characters before the first equals sign are the name of a flag in lower case exactly if
each of them is, as it is written. -/
theorem takeWhile_lowercase_eq_name_iff (text : List Char) (f : LongFlag) :
    (Text.lowercase text).takeWhile (· != '=') = f.name.toList ↔
      (text.takeWhile (· != '=')).map Char.toLower = f.name.toList :=
  Text.takeWhile_lowerAfter_eq_iff f.isKeyword_name.native []

/-- A text names a flag, known or not, if it begins with two dashes and goes on. -/
theorem namesFlag_iff :
    Argument.namesFlag text.toList = true ↔ "--".toList <+: text.toList ∧ text ≠ "--" := by
  rw [Argument.namesFlag, Bool.and_eq_true, List.isPrefixOf_iff_prefix, bne_iff_ne, ne_eq,
    String.toList_inj]

/-- A text is no flag if it does not begin with two dashes, or ends behind them. -/
theorem namesFlag_eq_false_iff :
    Argument.namesFlag text.toList = false ↔ ("--".toList <+: text.toList → text = "--") := by
  rw [← Bool.not_eq_true, namesFlag_iff, not_and, not_ne_iff]

/-- A text in lower case names a flag by what stands before its first equals sign. -/
theorem flag?_eq_some_iff : Argument.flag? lower = some (.flag f value) ↔
    lower.takeWhile (· != '=') = f.name.toList ∧ Argument.valueOf lower = value := by
  rw [Argument.flag?, Option.map_eq_some_iff]
  constructor
  · rintro ⟨g, hg, hflag⟩
    obtain ⟨rfl, hvalue⟩ := Argument.flag.inj hflag
    exact ⟨LongFlag.ofName?_eq_some_iff.mp hg, hvalue⟩
  · rintro ⟨hname, rfl⟩
    exact ⟨f, LongFlag.ofName?_eq_some_iff.mpr hname, rfl⟩

/-- **A text is taken for a flag** if it begins with two dashes, goes on, and names the flag. -/
theorem ofText?_eq_flag_iff : Argument.ofText? text = some (.flag f value) ↔
    ("--".toList <+: text.toList ∧ text ≠ "--") ∧
      (text.toList.takeWhile (· != '=')).map Char.toLower = f.name.toList ∧
      Argument.valueOf (Text.lowercase text.toList) = value := by
  rw [Argument.ofText?, ← namesFlag_iff, ← takeWhile_lowercase_eq_name_iff, ← flag?_eq_some_iff]
  cases Argument.namesFlag text.toList <;> simp

/-- **A text that is no flag is a plain one**, and no other text is. -/
theorem ofText?_eq_plain_iff {other : String} : Argument.ofText? text = some (.plain other) ↔
    ("--".toList <+: text.toList → text = "--") ∧ text = other := by
  rw [Argument.ofText?, ← namesFlag_eq_false_iff]
  cases Argument.namesFlag text.toList with
  | true => simp [Argument.flag?]
  | false => simp

/-- **A text is set aside exactly if it is an unknown flag.** -/
theorem ofText?_eq_none_iff : Argument.ofText? text = none ↔ UnknownFlag text := by
  have hunknown : Argument.flag? (Text.lowercase text.toList) = none ↔ ∀ f : LongFlag,
      (text.toList.takeWhile (· != '=')).map Char.toLower ≠ f.name.toList := by
    rw [Argument.flag?, Option.map_eq_none_iff, LongFlag.ofName?_eq_none_iff]
    refine forall_congr' fun f => ?_
    rw [ne_comm, ne_eq, takeWhile_lowercase_eq_name_iff]
  rw [Argument.ofText?]
  split
  · next h =>
    obtain ⟨hdashed, hlonger⟩ := namesFlag_iff.mp h
    rw [hunknown]
    exact ⟨fun hnone => ⟨hdashed, hlonger, hnone⟩, UnknownFlag.unknown⟩
  · next h =>
    exact iff_of_false (Option.some_ne_none _) fun hflag =>
      h (namesFlag_iff.mpr ⟨hflag.dashed, hflag.longer⟩)

/-- Where the lower case of a text has no value, the text has no equals sign. -/
theorem not_mem_of_valueOf_eq_none (h : Argument.valueOf (Text.lowercase text.toList) = none) :
    '=' ∉ text.toList := by
  intro hmem
  rw [Argument.valueOf] at h
  split at h
  · next heq =>
    have hnone := List.dropWhile_eq_nil_iff.mp heq '=' (Text.equals_mem_lowerAfter hmem [])
    exact bne_iff_ne.mp hnone rfl
  · cases h

/-- **A flag without a value is spelled by its name**, in a mixture of cases. -/
theorem spelled_of_ofText?_eq (h : Argument.ofText? text = some (.flag f none)) :
    text.toList.map Char.toLower = f.name.toList := by
  obtain ⟨-, hname, hvalue⟩ := ofText?_eq_flag_iff.mp h
  rwa [Text.takeWhile_eq_self (not_mem_of_valueOf_eq_none hvalue)] at hname

end PresetBuild
