import Mathlib.Data.List.TakeWhile
import PresetBuild.Proofs.Text.Lowercase
import PresetBuild.Word

/-!
# How words are spelled

A word is recognised by the lower case of its whole text, by the rules of Unicode, and the name of a
preset is cut from the text as it was written. Nevertheless a word is recognised by its ASCII
letters alone (`words_recognised`): `list`, `build` and `preset=` may be written in any mixture of
cases, and no other sign stands for one of their letters. What stands where the keyword does is as
long as the keyword, so the name is cut where it begins.

The keywords have no `k`, the one ASCII letter that a sign beyond ASCII has for its lower case. So
`list` and `build` are compared as whole texts (`Text.lowercase_eq_iff`), and `preset=` with what is
behind it by its part up to the equals sign (`Text.assigns_lowercase_iff`).
-/

namespace PresetBuild.Word

/-! ## The grammar -/

/-- **How a word is spelled**: its keyword in any mixture of cases, and behind `preset=` a name, as
it is written up to the next equals sign, that is not empty. -/
def Spelled (text : String) : Word → Prop
  | .list => text.toList.map Char.toLower = "list".toList
  | .build => text.toList.map Char.toLower = "build".toList
  | .preset name => ∃ key value, text.toList = key ++ value ∧
      key.map Char.toLower = "preset=".toList ∧
      value.takeWhile (· != '=') = name.toList ∧ name ≠ ""

variable {text name : String} {w : Word}

/-- The keyword of a preset, in any mixture of cases, ends at its equals sign. -/
theorem exists_key {key : List Char} (h : key.map Char.toLower = "preset=".toList) :
    ∃ front, key = front ++ ['='] ∧ '=' ∉ front ∧ front.map Char.toLower = "preset".toList := by
  obtain ⟨front, back, rfl, hfront, hback⟩ :=
    List.map_eq_append_iff.mp (h.trans (show _ = "preset".toList ++ ['='] from rfl))
  obtain ⟨c, rfl, hc⟩ := List.map_eq_singleton_iff.mp hback
  have hequals : '=' ∉ front := fun hmem =>
    absurd (List.mem_map_of_mem (f := Char.toLower) hmem) (hfront ▸ by decide)
  exact ⟨front, by rw [Text.eq_equals_of_toLower hc], hequals, hfront⟩

/-- What is assigned stands between the first equals sign and the next. -/
theorem assigned_eq {front : List Char} (h : '=' ∉ front) (value : List Char) :
    assigned (front ++ '=' :: value) = value.takeWhile (· != '=') := by
  rw [assigned, Text.dropWhile_append_separator h, List.drop_one, List.tail_cons]

theorem lowercase_eq_list_iff : Text.lowercase text.toList = "list".toList ↔ list.Spelled text :=
  Text.lowercase_eq_iff (by decide)

theorem lowercase_eq_build_iff :
    Text.lowercase text.toList = "build".toList ↔ build.Spelled text :=
  Text.lowercase_eq_iff (by decide)

/-- The lower case of a text begins as that of a preset does if its keyword is spelled at its front,
whether or not a name follows. -/
theorem preset_prefix_iff : "preset=".toList <+: Text.lowercase text.toList ↔
    ∃ front value, text.toList = front ++ '=' :: value ∧ '=' ∉ front ∧
      front.map Char.toLower = "preset".toList := by
  have hkeyword : Text.IsKeyword "preset".toList := by decide
  exact Text.assigns_lowercase_iff hkeyword

/-! ## Recognition -/

/-- **A word that is spelled is recognised.** -/
theorem Spelled.ofString?_eq (h : w.Spelled text) : ofString? text = some w := by
  cases w with
  | list => simp [ofString?, lowercase_eq_list_iff.mpr h]
  | build => simp [ofString?, lowercase_eq_build_iff.mpr h]
  | preset name =>
    obtain ⟨key, value, htext, hkey, hname, hne⟩ := h
    obtain ⟨front, rfl, hsingle, hfront⟩ := exists_key hkey
    rw [List.append_assoc, List.singleton_append] at htext
    have hprefix : "preset=".toList <+: Text.lowercase text.toList :=
      preset_prefix_iff.mpr ⟨front, value, htext, hsingle, hfront⟩
    have hassigned : assigned text.toList = name.toList := by
      rw [htext, assigned_eq hsingle, hname]
    -- neither of the other keywords begins like this one
    have hlist : Text.lowercase text.toList ≠ "list".toList := fun heq =>
      absurd (heq ▸ hprefix) (by decide)
    have hbuild : Text.lowercase text.toList ≠ "build".toList := fun heq =>
      absurd (heq ▸ hprefix) (by decide)
    have hfull : name.toList.isEmpty = false := by simpa using hne
    simp only [ofString?, if_neg hlist, if_neg hbuild, List.isPrefixOf_iff_prefix.mpr hprefix,
      if_true, hassigned, hfull, Bool.false_eq_true, if_false, String.ofList_toList]

/-- **A word that is recognised is spelled.** -/
theorem spelled_of_ofString? (h : ofString? text = some w) : w.Spelled text := by
  simp only [ofString?] at h
  split at h
  · next hlist =>
    cases h
    exact lowercase_eq_list_iff.mp hlist
  split at h
  · next hbuild =>
    cases h
    exact lowercase_eq_build_iff.mp hbuild
  split at h
  · next hprefix =>
    split at h
    · cases h
    · next hfull =>
      cases h
      obtain ⟨front, value, htext, hsingle, hfront⟩ :=
        preset_prefix_iff.mp (List.isPrefixOf_iff_prefix.mp hprefix)
      have hname := assigned_eq hsingle value
      rw [← htext] at hname
      refine ⟨front ++ ['='], value, by simpa using htext, ?_, ?_, ?_⟩
      · rw [List.map_append, hfront]
        rfl
      · rw [String.toList_ofList, hname]
      · intro hempty
        apply hfull
        simpa using congrArg String.toList hempty
  · cases h

theorem ofString?_eq_some_iff : ofString? text = some w ↔ w.Spelled text :=
  ⟨spelled_of_ofString?, Spelled.ofString?_eq⟩

theorem parse_eq_ok_iff : parse text = .ok w ↔ w.Spelled text := by
  rw [← ofString?_eq_some_iff, parse]
  cases ofString? text <;> simp

/-- A text that spells no word is complained about, as it is. -/
theorem parse_eq_error_iff : parse text = .error ⟨text⟩ ↔ ∀ w : Word, ¬w.Spelled text := by
  simp only [← ofString?_eq_some_iff, parse]
  cases ofString? text <;> simp

/-- Where a word is spelled, all characters before the first equals sign are ASCII. -/
theorem Spelled.ascii (h : w.Spelled text) :
    ∀ c ∈ text.toList.takeWhile (· != '='), c.toNat < 128 := by
  intro c hc
  cases w with
  | list =>
    have hkeyword : Text.IsKeyword "list".toList := by decide
    exact hkeyword.ascii h c ((List.takeWhile_prefix _).subset hc)
  | build =>
    have hkeyword : Text.IsKeyword "build".toList := by decide
    exact hkeyword.ascii h c ((List.takeWhile_prefix _).subset hc)
  | preset name =>
    have hkeyword : Text.IsKeyword "preset".toList := by decide
    obtain ⟨key, value, htext, hkey, -⟩ := h
    obtain ⟨front, rfl, hsingle, hfront⟩ := exists_key hkey
    rw [htext, List.append_assoc, List.singleton_append,
      Text.takeWhile_append_separator hsingle] at hc
    exact hkeyword.ascii hfront c hc

/-- Behind `preset=` in small letters, a text is a whole name unless it has an equals sign. -/
theorem spelled_preset_append_iff :
    (preset name).Spelled ("preset=" ++ name) ↔ name ≠ "" ∧ '=' ∉ name.toList := by
  constructor
  · rintro ⟨key, value, htext, hkey, hname, hne⟩
    refine ⟨hne, fun hmem => ?_⟩
    -- both keys are seven characters long, so the values are the same
    have hlength : key.length = "preset=".toList.length := by
      simpa using congrArg List.length hkey
    rw [String.toList_append] at htext
    obtain ⟨-, rfl⟩ := List.append_inj htext hlength.symm
    exact absurd (List.mem_takeWhile_imp (hname ▸ hmem)) (by decide)
  · rintro ⟨hne, hsingle⟩
    exact ⟨"preset=".toList, name.toList, String.toList_append, rfl,
      Text.takeWhile_eq_self hsingle, hne⟩

/-- **Words are recognised by their ASCII letters.** A text is a word exactly if it is spelled as
one, in any mixture of cases; any other text is complained about as it is. No sign beyond ASCII
stands for a letter of a keyword: where there is one before the first equals sign, there is no word.
A name behind `preset=` is read back whole exactly if it is not empty and has no equals sign. -/
theorem words_recognised (text : String) :
    (∀ w : Word, parse text = .ok w ↔ w.Spelled text) ∧
      (parse text = .error ⟨text⟩ ↔ ∀ w : Word, ¬w.Spelled text) ∧
      ((∃ c ∈ text.toList.takeWhile (· != '='), 128 ≤ c.toNat) → parse text = .error ⟨text⟩) ∧
      (parse ("preset=" ++ text) = .ok (.preset text) ↔ text ≠ "" ∧ '=' ∉ text.toList) := by
  refine ⟨fun w => parse_eq_ok_iff, parse_eq_error_iff, ?_, ?_⟩
  · rintro ⟨c, hc, hbeyond⟩
    apply parse_eq_error_iff.mpr
    intro w hspelled
    exact Nat.not_le_of_lt (hspelled.ascii c hc) hbeyond
  · rw [parse_eq_ok_iff, spelled_preset_append_iff]

/-- A long s is no s, although it is one in capitals; a name in mixed cases is cut at its equals
sign. -/
theorem words_recognised_lookalike :
    (∃ c ∈ "pre\u017fet=x64".toList.takeWhile (· != '='), 128 ≤ c.toNat) ∧
      parse "pre\u017fet=x64" = .error ⟨"pre\u017fet=x64"⟩ ∧
      parse "PreSet=Linux-Σ=x" = .ok (.preset "Linux-Σ") := by
  have hbeyond : ∃ c ∈ "pre\u017fet=x64".toList.takeWhile (· != '='), 128 ≤ c.toNat :=
    ⟨'\u017f', by decide, by decide⟩
  obtain ⟨-, -, hlookalike, -⟩ := words_recognised "pre\u017fet=x64"
  obtain ⟨hword, -, -, -⟩ := words_recognised "PreSet=Linux-Σ=x"
  refine ⟨hbeyond, hlookalike hbeyond, (hword (.preset "Linux-Σ")).mpr ?_⟩
  exact ⟨"PreSet=".toList, "Linux-Σ=x".toList, by decide, by decide, by decide, by decide⟩

end PresetBuild.Word
