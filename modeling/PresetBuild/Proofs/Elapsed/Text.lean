import Mathlib.Algebra.Order.Field.Rat
import Mathlib.Tactic.FieldSimp
import Mathlib.Tactic.Ring
import PresetBuild.Elapsed
import PresetBuild.Text.Pieces

/-!
# The text of a span

A text that says so many milliseconds is the digits of a whole number, a point, two more digits and
the unit (`Elapsed.Says`). It says one number only (`Says.unique`), and the text of a span says one
(`says_text`): its hundredths of a millisecond, which are what the two decimals leave.
-/

namespace PresetBuild.Elapsed

/-- **The digits of a whole number**: there are some, and a zero in front stands alone. -/
structure WholeDigits (digits : List Char) : Prop where
  nonempty : digits ≠ []
  decimal : ∀ c ∈ digits, c.isDigit = true
  plain : digits.head? = some '0' → digits = ['0']

/-- **A text says so many milliseconds.** -/
def Says (text : String) (q : ℚ) : Prop :=
  ∃ whole decimals : List Char, text.toList = whole ++ '.' :: decimals ++ ['m', 's'] ∧
    WholeDigits whole ∧ decimals.length = 2 ∧ (∀ c ∈ decimals, c.isDigit = true) ∧
    q = Nat.ofDigitChars 10 whole 0 + (Nat.ofDigitChars 10 decimals 0 : ℚ) / 100

/-- The point is no digit. -/
theorem WholeDigits.point_not_mem {digits : List Char} (h : WholeDigits digits) : '.' ∉ digits := by
  intro hmem
  exact absurd (h.decimal '.' hmem) (by decide)

/-- A text says one number only: the first point in it ends the digits of the whole number. -/
theorem Says.unique {text : String} {q r : ℚ} (h : Says text q) (h' : Says text r) : q = r := by
  obtain ⟨whole, decimals, htext, hwhole, -, -, rfl⟩ := h
  obtain ⟨whole', decimals', htext', hwhole', -, -, rfl⟩ := h'
  rw [List.append_assoc, List.cons_append] at htext htext'
  have hsame : whole = whole' := by
    rw [← Text.takeWhile_append_separator hwhole.point_not_mem, ← htext, htext',
      Text.takeWhile_append_separator hwhole'.point_not_mem]
  subst hsame
  have hrest : decimals = decimals' := by
    simpa [htext] using htext'
  rw [hrest]

/-! ## Digits -/

/-- The digits of a number begin with a zero only if it is zero. -/
theorem eq_zero_of_head?_toDigits {n : ℕ} (h : (Nat.toDigits 10 n).head? = some '0') : n = 0 := by
  induction n using Nat.strong_induction_on with
  | _ n ih =>
    rcases lt_or_ge n 10 with hn | hn
    · rw [Nat.toDigits_of_lt_base hn] at h
      exact Nat.digitChar_eq_zero.mp (Option.some.inj h)
    · -- The first digit is that of a tenth of the number, which is not zero.
      rw [Nat.toDigits_of_base_le (by decide) hn,
        List.head?_append_of_ne_nil _ Nat.toDigits_ne_nil] at h
      have htenth := ih (n / 10) (by omega) h
      omega

theorem wholeDigits_toDigits (n : ℕ) : WholeDigits (Nat.toDigits 10 n) where
  nonempty := Nat.toDigits_ne_nil
  decimal _ hc := Nat.isDigit_of_mem_toDigits (by decide) le_rfl hc
  plain h := by rw [eq_zero_of_head?_toDigits h, Nat.toDigits_zero]

/-- Two digits of a number below a hundred are its tens and its ones. -/
theorem twoDigits_toList {n : ℕ} (h : n < 100) :
    (twoDigits n).toList = [(n / 10).digitChar, (n % 10).digitChar] := by
  unfold twoDigits
  split
  · next hn =>
    rw [Nat.toString_eq_ofList_toDigits, Nat.toDigits_of_lt_base hn, Nat.div_eq_of_lt hn,
      Nat.mod_eq_of_lt hn, String.toList_append, String.toList_ofList]
    simp
  · next hn =>
    rw [Nat.toString_eq_ofList_toDigits, Nat.toDigits_of_base_le (by decide) (not_lt.mp hn),
      Nat.toDigits_of_lt_base (by omega), String.toList_ofList]
    rfl

/-! ## What the text of a span says -/

/-- **The text of a span says its hundredths.** -/
theorem says_text (e : Elapsed) : Says e.text (e.hundredths / 100) := by
  have hones : e.hundredths % 100 % 10 < 10 := Nat.mod_lt _ (by decide)
  have htens : e.hundredths % 100 / 10 < 10 := by omega
  refine ⟨Nat.toDigits 10 (e.hundredths / 100),
    [(e.hundredths % 100 / 10).digitChar, (e.hundredths % 100 % 10).digitChar], ?_,
    wholeDigits_toDigits _, rfl, ?_, ?_⟩
  · simp only [text, String.toList_append, Nat.toString_eq_ofList_toDigits, String.toList_ofList,
      twoDigits_toList (Nat.mod_lt _ (by decide : 0 < 100))]
    simp
  · simp only [List.mem_cons, List.not_mem_nil, or_false, forall_eq_or_imp, forall_eq,
      Nat.isDigit_digitChar, decide_eq_true_eq]
    exact ⟨htens, hones⟩
  · rw [Nat.ofDigitChars_ten_toDigits, Nat.ofDigitChars_cons_digitChar_of_lt_ten htens,
      Nat.ofDigitChars_cons_digitChar_of_lt_ten hones, Nat.ofDigitChars_nil]
    have hdecimals : 10 * (10 * 0 + e.hundredths % 100 / 10) + e.hundredths % 100 % 10 =
        e.hundredths % 100 := by omega
    have hsplit : (e.hundredths : ℚ) =
        100 * (e.hundredths / 100 : ℕ) + (e.hundredths % 100 : ℕ) := by
      exact_mod_cast (Nat.div_add_mod e.hundredths 100).symm
    rw [hdecimals, hsplit]
    ring

end PresetBuild.Elapsed
