import PresetBuild.Proofs.Json.Spelling
import PresetBuild.Proofs.Text.Utf8

/-!
# The text of a written string

The characters read from a written string are the text it stands for, and where none are read it
stands for no text (`characters?_eq_some_iff`). What makes the difference is a lone surrogate. A
character up to U+FFFF has one unit, which is no surrogate (`not_surrogate`), and a character beyond
has a pair of them (`surrogates_of_char`), so no text is written with a surrogate that stands alone.
-/

namespace PresetBuild.Json

open Text (toNat_ofNat)

variable {c : Char} {u v : UInt16} {w : Written} {text : List Char}

theorem isLeading_iff : isLeading u = true ↔ 0xD800 ≤ u.toNat ∧ u.toNat < 0xDC00 := by
  unfold isLeading
  rw [Bool.and_eq_true, decide_eq_true_eq, decide_eq_true_eq]

theorem isTrailing_iff : isTrailing u = true ↔ 0xDC00 ≤ u.toNat ∧ u.toNat < 0xE000 := by
  unfold isTrailing
  rw [Bool.and_eq_true, decide_eq_true_eq, decide_eq_true_eq]

theorem toNat_unit {n : Nat} (h : n < 0x10000) : (UInt16.ofNat n).toNat = n := by
  rw [UInt16.toNat_ofNat', Nat.mod_eq_of_lt h]

/-- A unit that is no surrogate is the code point of a character. -/
theorem isValidChar_of_unit (hl : ¬isLeading u = true) (ht : ¬isTrailing u = true) :
    u.toNat.isValidChar := by
  rw [isLeading_iff] at hl
  rw [isTrailing_iff] at ht
  have hu : u.toNat < 65536 := u.toNat_lt
  unfold Nat.isValidChar
  omega

/-- The one unit of a character up to U+FFFF is no surrogate. -/
theorem not_surrogate (h : c.toNat < 0x10000) :
    ¬isLeading (UInt16.ofNat c.toNat) = true ∧ ¬isTrailing (UInt16.ofNat c.toNat) = true := by
  rw [isLeading_iff, isTrailing_iff, toNat_unit h]
  have hvalid := Text.Utf8.toNat_valid c
  omega

theorem utf16_of_unit (hl : ¬isLeading u = true) (ht : ¬isTrailing u = true) :
    utf16 (Char.ofNat u.toNat) = [u] := by
  have hu : u.toNat < 0x10000 := u.toNat_lt
  unfold utf16
  rw [toNat_ofNat (isValidChar_of_unit hl ht), if_pos hu, UInt16.ofNat_toNat]

theorem utf16_of_surrogates (hl : isLeading u = true) (ht : isTrailing v = true) :
    utf16 (paired u v) = [u, v] := by
  rw [isLeading_iff] at hl
  rw [isTrailing_iff] at ht
  have hvalid : (0x10000 + (u.toNat - 0xD800) * 0x400 + (v.toNat - 0xDC00)).isValidChar := by
    unfold Nat.isValidChar
    omega
  have hlead : 0xD800 +
      (0x10000 + (u.toNat - 0xD800) * 0x400 + (v.toNat - 0xDC00) - 0x10000) / 0x400 = u.toNat := by
    omega
  have htrail : 0xDC00 +
      (0x10000 + (u.toNat - 0xD800) * 0x400 + (v.toNat - 0xDC00) - 0x10000) % 0x400 = v.toNat := by
    omega
  unfold utf16 paired
  rw [toNat_ofNat hvalid, if_neg (by omega), hlead, htrail, UInt16.ofNat_toNat, UInt16.ofNat_toNat]

/-- The two units of a character beyond U+FFFF are a surrogate pair, which stands for it. -/
theorem surrogates_of_char (h : ¬c.toNat < 0x10000) :
    ∃ u v, utf16 c = [u, v] ∧ isLeading u = true ∧ isTrailing v = true ∧ paired u v = c := by
  have hvalid := Text.Utf8.toNat_valid c
  have hlead : (UInt16.ofNat (0xD800 + (c.toNat - 0x10000) / 0x400)).toNat =
      0xD800 + (c.toNat - 0x10000) / 0x400 :=
    toNat_unit (by omega)
  have htrail : (UInt16.ofNat (0xDC00 + (c.toNat - 0x10000) % 0x400)).toNat =
      0xDC00 + (c.toNat - 0x10000) % 0x400 :=
    toNat_unit (by omega)
  refine ⟨_, _, if_neg h, ?_, ?_, ?_⟩
  · rw [isLeading_iff, hlead]
    omega
  · rw [isTrailing_iff, htrail]
    omega
  · have hsame : 0x10000 + (0xD800 + (c.toNat - 0x10000) / 0x400 - 0xD800) * 0x400 +
        (0xDC00 + (c.toNat - 0x10000) % 0x400 - 0xDC00) = c.toNat := by
      omega
    unfold paired
    rw [hlead, htrail, hsame, Char.ofNat_toNat]

/-- A unit that is no surrogate is read on its own, whatever follows it. -/
theorem characters?_unit (hl : ¬isLeading u = true) (ht : ¬isTrailing u = true) (w : Written) :
    characters? (.unit u :: w) = (characters? w).map (Char.ofNat u.toNat :: ·) := by
  have hboth : ¬(isLeading u || isTrailing u) = true := by
    rw [Bool.or_eq_true]
    exact fun h => h.elim hl ht
  cases w with
  | nil => exact if_neg hboth
  | cons p w =>
    cases p with
    | char c => exact if_neg hboth
    | unit v => rw [characters?, if_neg hl, if_neg ht]

theorem characters?_surrogates (hl : isLeading u = true) (ht : isTrailing v = true) (w : Written) :
    characters? (.unit u :: .unit v :: w) = (characters? w).map (paired u v :: ·) := by
  rw [characters?, if_pos hl, if_pos ht]

theorem Denotes.unit (hl : ¬isLeading u = true) (ht : ¬isTrailing u = true)
    (h : Denotes w text) : Denotes (.unit u :: w) (Char.ofNat u.toNat :: text) := by
  have hunits := Denotes.units (c := Char.ofNat u.toNat) h
  rw [utf16_of_unit hl ht] at hunits
  exact hunits

theorem Denotes.surrogates (hl : isLeading u = true) (ht : isTrailing v = true)
    (h : Denotes w text) : Denotes (.unit u :: .unit v :: w) (paired u v :: text) := by
  have hunits := Denotes.units (c := paired u v) h
  rw [utf16_of_surrogates hl ht] at hunits
  exact hunits

theorem denotes_of_characters (h : characters? w = some text) : Denotes w text := by
  induction w using characters?.induct generalizing text with
  | case1 =>
    cases h
    exact .nil
  | case2 c rest ih =>
    rw [characters?, Option.map_eq_some_iff] at h
    obtain ⟨more, hmore, rfl⟩ := h
    exact .char (ih hmore)
  | case3 u v rest hl ht ih =>
    rw [characters?_surrogates hl ht, Option.map_eq_some_iff] at h
    obtain ⟨more, hmore, rfl⟩ := h
    exact .surrogates hl ht (ih hmore)
  | case4 u v rest hl ht =>
    rw [characters?, if_pos hl, if_neg ht] at h
    cases h
  | case5 u v rest hl ht =>
    rw [characters?, if_neg hl, if_pos ht] at h
    cases h
  | case6 u v rest hl ht ih =>
    rw [characters?_unit hl ht, Option.map_eq_some_iff] at h
    obtain ⟨more, hmore, rfl⟩ := h
    exact .unit hl ht (ih hmore)
  | case7 u rest hnext hboth =>
    rw [characters?, if_pos hboth] at h
    · cases h
    · exact hnext
  | case8 u rest hnext hneither ih =>
    rw [Bool.or_eq_true, not_or] at hneither
    rw [characters?_unit hneither.1 hneither.2, Option.map_eq_some_iff] at h
    obtain ⟨more, hmore, rfl⟩ := h
    exact .unit hneither.1 hneither.2 (ih hmore)

theorem characters_of_denotes (h : Denotes w text) : characters? w = some text := by
  induction h with
  | nil => rfl
  | char _ ih =>
    rw [characters?, ih]
    rfl
  | @units c w text _ ih =>
    by_cases hc : c.toNat < 0x10000
    · obtain ⟨hl, ht⟩ := not_surrogate hc
      have hunits : utf16 c = [UInt16.ofNat c.toNat] := if_pos hc
      rw [hunits]
      show characters? (.unit _ :: w) = _
      rw [characters?_unit hl ht, ih, toNat_unit hc, Char.ofNat_toNat]
      rfl
    · obtain ⟨u, v, hunits, hl, ht, hpaired⟩ := surrogates_of_char hc
      rw [hunits]
      show characters? (.unit u :: .unit v :: w) = _
      rw [characters?_surrogates hl ht, ih, hpaired]
      rfl

/-- **The characters of a written string are the text it stands for.** -/
theorem characters?_eq_some_iff : characters? w = some text ↔ Denotes w text :=
  ⟨denotes_of_characters, characters_of_denotes⟩

end PresetBuild.Json
