import PresetBuild.Proofs.Json.Spelling

/-!
# How far a number has come

Each of the places where a number may stand (`Digits`) stands for what has come of it
(`Digits.Come`), in terms of the grammar's parts: the sign, the whole part, the decimals and the
exponent. One more character carries that on (`Digits.Come.next`), and where a number may end, what
has come is a whole number (`Digits.Come.numberText`).
-/

namespace PresetBuild.Json

variable {c : Char} {d d' : Digits} {x : List Char}

/-- A number up to its exponent. -/
def UnmarkedText (text : List Char) : Prop :=
  ∃ sign whole fraction, SignText sign ∧ WholeText whole ∧ FractionText fraction ∧
    text = sign ++ whole ++ fraction

/-- **What has come of a number** where it has come so far. -/
def Digits.Come : Digits → List Char → Prop
  | .minus, x => x = ['-']
  | .zero, x => ∃ sign, SignText sign ∧ x = sign ++ ['0']
  | .whole, x =>
    ∃ sign digits, SignText sign ∧ DigitsText digits ∧ digits.head? ≠ some '0' ∧
      x = sign ++ digits
  | .point, x => ∃ sign whole, SignText sign ∧ WholeText whole ∧ x = sign ++ whole ++ ['.']
  | .decimals, x =>
    ∃ sign whole digits, SignText sign ∧ WholeText whole ∧ DigitsText digits ∧
      x = sign ++ whole ++ '.' :: digits
  | .mark, x =>
    ∃ before mark, UnmarkedText before ∧ (mark = 'e' ∨ mark = 'E') ∧ x = before ++ [mark]
  | .sign, x =>
    ∃ before mark sign, UnmarkedText before ∧ (mark = 'e' ∨ mark = 'E') ∧
      (sign = '+' ∨ sign = '-') ∧ x = before ++ [mark, sign]
  | .exponent, x =>
    ∃ before mark sign digits, UnmarkedText before ∧ (mark = 'e' ∨ mark = 'E') ∧
      ExponentSignText sign ∧ DigitsText digits ∧ x = before ++ (mark :: sign ++ digits)

theorem isMark_iff : isMark c = true ↔ c = 'e' ∨ c = 'E' := by
  unfold isMark
  rw [Bool.or_eq_true, beq_iff_eq, beq_iff_eq]

theorem digitsText_singleton (h : c.isDigit = true) : DigitsText [c] :=
  ⟨List.cons_ne_nil _ _, List.forall_mem_singleton.mpr h⟩

theorem DigitsText.concat (h : DigitsText x) (hc : c.isDigit = true) : DigitsText (x ++ [c]) := by
  refine ⟨List.append_ne_nil_of_left_ne_nil h.1 _, fun e he => ?_⟩
  rcases List.mem_append.mp he with he | he
  · exact h.2 e he
  · rw [List.mem_singleton.mp he]
    exact hc

theorem Digits.come_zero (h : Come .zero x) : UnmarkedText x := by
  obtain ⟨sign, hs, rfl⟩ := h
  exact ⟨sign, ['0'], [], hs, .inl rfl, .inl rfl, (List.append_nil _).symm⟩

theorem Digits.come_whole (h : Come .whole x) : UnmarkedText x := by
  obtain ⟨sign, digits, hs, hd, hz, rfl⟩ := h
  exact ⟨sign, digits, [], hs, .inr ⟨hd, hz⟩, .inl rfl, (List.append_nil _).symm⟩

theorem Digits.come_decimals (h : Come .decimals x) : UnmarkedText x := by
  obtain ⟨sign, whole, digits, hs, hw, hd, rfl⟩ := h
  exact ⟨sign, whole, '.' :: digits, hs, hw, .inr ⟨digits, hd, rfl⟩, rfl⟩

theorem UnmarkedText.numberText (h : UnmarkedText x) : NumberText x := by
  obtain ⟨sign, whole, fraction, hs, hw, hf, rfl⟩ := h
  exact ⟨sign, whole, fraction, [], hs, hw, hf, .inl rfl, (List.append_nil _).symm⟩

/-- A number that may end where it stands is a number. -/
theorem Digits.Come.numberText (h : d.Come x) (hd : d.complete = true) : NumberText x := by
  cases d with
  | zero => exact (come_zero h).numberText
  | whole => exact (come_whole h).numberText
  | decimals => exact (come_decimals h).numberText
  | exponent =>
    obtain ⟨_, mark, sign, digits, ⟨s, w, f, hs, hw, hf, rfl⟩, hm, he, hd, rfl⟩ := h
    exact ⟨s, w, f, _, hs, hw, hf, .inr ⟨mark, sign, digits, hm, he, hd, rfl⟩, rfl⟩
  | minus | point | mark | sign => cases hd

/-- The first digit of a whole part, behind a sign or nothing. -/
theorem Digits.come_first {sign : List Char} (hs : SignText sign)
    (h : Digits.next? .minus c = some d) : d.Come (sign ++ [c]) := by
  rw [Digits.next?] at h
  split at h
  · next hc =>
    cases h
    rw [hc]
    exact ⟨sign, hs, rfl⟩
  split at h
  · next hz hc =>
    cases h
    refine ⟨sign, [c], hs, digitsText_singleton hc, ?_, rfl⟩
    rw [List.head?_cons]
    exact fun h => hz (Option.some.inj h)
  · cases h

theorem Digits.come_start (h : Digits.start? c = some d) : d.Come [c] := by
  unfold Digits.start? at h
  split at h
  · next hc =>
    cases h
    rw [hc]
    rfl
  · exact come_first (.inl rfl) h

theorem Digits.come_mark (hx : UnmarkedText x) (hc : isMark c = true) : Come .mark (x ++ [c]) :=
  ⟨x, c, hx, isMark_iff.mp hc, rfl⟩

/-- **One more character of a number.** -/
theorem Digits.Come.next (h : d.Come x) (hnext : d.next? c = some d') : d'.Come (x ++ [c]) := by
  cases d with
  | minus =>
    rw [show x = ['-'] from h]
    exact come_first (.inr rfl) hnext
  | zero =>
    rw [Digits.next?] at hnext
    split at hnext
    · next hc =>
      cases hnext
      obtain ⟨sign, hs, rfl⟩ := h
      rw [hc]
      exact ⟨sign, ['0'], hs, .inl rfl, rfl⟩
    split at hnext
    · next hc =>
      cases hnext
      exact come_mark (come_zero h) hc
    · cases hnext
  | whole =>
    rw [Digits.next?] at hnext
    split at hnext
    · next hc =>
      cases hnext
      obtain ⟨sign, digits, hs, hd, hz, rfl⟩ := h
      refine ⟨sign, digits ++ [c], hs, hd.concat hc, ?_, List.append_assoc _ _ _⟩
      rw [List.head?_append_of_ne_nil _ hd.1]
      exact hz
    split at hnext
    · next hc =>
      cases hnext
      obtain ⟨sign, digits, hs, hd, hz, rfl⟩ := h
      rw [hc]
      exact ⟨sign, digits, hs, .inr ⟨hd, hz⟩, rfl⟩
    split at hnext
    · next hc =>
      cases hnext
      exact come_mark (come_whole h) hc
    · cases hnext
  | point =>
    rw [Digits.next?] at hnext
    split at hnext
    · next hc =>
      cases hnext
      obtain ⟨sign, whole, hs, hw, rfl⟩ := h
      exact ⟨sign, whole, [c], hs, hw, digitsText_singleton hc, List.append_assoc _ _ _⟩
    · cases hnext
  | decimals =>
    rw [Digits.next?] at hnext
    split at hnext
    · next hc =>
      cases hnext
      obtain ⟨sign, whole, digits, hs, hw, hd, rfl⟩ := h
      exact ⟨sign, whole, digits ++ [c], hs, hw, hd.concat hc, List.append_assoc _ _ _⟩
    split at hnext
    · next hc =>
      cases hnext
      exact come_mark (come_decimals h) hc
    · cases hnext
  | mark =>
    rw [Digits.next?] at hnext
    obtain ⟨before, mark, hb, hm, rfl⟩ := h
    split at hnext
    · next hc =>
      cases hnext
      exact ⟨before, mark, [], [c], hb, hm, .inl rfl, digitsText_singleton hc,
        List.append_assoc _ _ _⟩
    split at hnext
    · next hc =>
      cases hnext
      exact ⟨before, mark, c, hb, hm, .inl hc, List.append_assoc _ _ _⟩
    split at hnext
    · next hc =>
      cases hnext
      exact ⟨before, mark, c, hb, hm, .inr hc, List.append_assoc _ _ _⟩
    · cases hnext
  | sign =>
    rw [Digits.next?] at hnext
    split at hnext
    · next hc =>
      cases hnext
      obtain ⟨before, mark, sign, hb, hm, hs, rfl⟩ := h
      refine ⟨before, mark, [sign], [c], hb, hm, ?_, digitsText_singleton hc,
        List.append_assoc _ _ _⟩
      rcases hs with rfl | rfl
      · exact .inr (.inl rfl)
      · exact .inr (.inr rfl)
    · cases hnext
  | exponent =>
    rw [Digits.next?] at hnext
    split at hnext
    · next hc =>
      cases hnext
      obtain ⟨before, mark, sign, digits, hb, hm, hs, hd, rfl⟩ := h
      refine ⟨before, mark, sign, digits ++ [c], hb, hm, hs, hd.concat hc, ?_⟩
      simp only [List.append_assoc, List.cons_append]
    · cases hnext

end PresetBuild.Json
