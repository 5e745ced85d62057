import Mathlib.Algebra.Order.Ring.Rat
import PresetBuild.Proofs.Binary64
import PresetBuild.Proofs.Elapsed.Text

/-!
# The order of printed times

Of two spans the longer one is never printed as less (`text_ordered`), whatever their length.

Every rounding keeps order, so within one second the printed time does. From one second to a later
one the fraction of a second falls back, and more than order is needed: the sum of the first is
rounded to no more than the next second (`binarySeconds_le_nearest`). Up to `2 ^ 53` seconds that is
because whole seconds are not rounded. Beyond, seconds are at least two apart, and no fraction makes
a difference.
-/

namespace PresetBuild.Elapsed

open Binary64

/-- The binary fraction of a second. -/
def binaryFraction (e : Elapsed) : ℚ :=
  nearest (e.subsecond / 1000000000)

/-- The seconds of a span, in binary64. -/
def binarySeconds (e : Elapsed) : ℚ :=
  nearest (nearest e.seconds + e.binaryFraction)

variable {d e : Elapsed}

theorem milliseconds_eq (e : Elapsed) : e.milliseconds = nearest (e.binarySeconds * 1000) :=
  rfl

theorem subsecond_lt (e : Elapsed) : e.subsecond < 1000000000 :=
  Nat.mod_lt _ (by decide)

/-! ## A second and its fraction -/

theorem binaryFraction_nonneg (e : Elapsed) : 0 ≤ e.binaryFraction :=
  nearest_nonneg _

/-- What rounding moves a fraction of a second. -/
theorem abs_binaryFraction_sub_le (e : Elapsed) :
    |e.binaryFraction - e.subsecond / 1000000000| ≤ 2 ^ (-54 : ℤ) := by
  have hless : (e.subsecond : ℚ) / 1000000000 < 2 ^ (0 : ℤ) := by
    rw [zpow_zero, div_lt_one (by norm_num)]
    exact_mod_cast e.subsecond_lt
  have hmoved := abs_nearest_sub_le (by positivity) hless
  rwa [zero_sub] at hmoved

/-- A fraction of a second is not rounded up to the second. -/
theorem binaryFraction_lt_one (e : Elapsed) : e.binaryFraction < 1 := by
  have hmoved := (abs_le.mp e.abs_binaryFraction_sub_le).2
  have hlast : (e.subsecond : ℚ) ≤ 999999999 := by
    exact_mod_cast Nat.le_of_lt_succ e.subsecond_lt
  have htiny : (2 : ℚ) ^ (-54 : ℤ) < 1 / 1000000000 := by norm_num
  linarith

theorem binarySeconds_nonneg (e : Elapsed) : 0 ≤ e.binarySeconds :=
  nearest_nonneg _

theorem milliseconds_nonneg (e : Elapsed) : 0 ≤ e.milliseconds :=
  nearest_nonneg _

/-- Whole seconds are not rounded up to `2 ^ 53`. -/
theorem nearest_natCast {n : ℕ} (h : n ≤ 2 ^ 53) : nearest n = n := by
  rcases h.eq_or_lt with rfl | hlt
  · exact nearest_of_isBinary64 ⟨1, 53, by norm_num, by norm_num⟩
  · exact nearest_of_isBinary64 (isBinary64_natCast hlt)

/-- A span is rounded to no less than its whole seconds. -/
theorem nearest_le_binarySeconds (e : Elapsed) : nearest e.seconds ≤ e.binarySeconds := by
  calc nearest e.seconds = nearest (nearest e.seconds) :=
        (nearest_of_isBinary64 (isBinary64_nearest _)).symm
    _ ≤ nearest (nearest e.seconds + e.binaryFraction) :=
        nearest_mono (le_add_of_nonneg_right e.binaryFraction_nonneg)

/-- **A span is rounded to no more than a later second.** -/
theorem binarySeconds_le_nearest {n : ℕ} (h : e.seconds < n) : e.binarySeconds ≤ nearest n := by
  have hfraction := e.binaryFraction_lt_one
  rcases le_or_gt (e.seconds + 1) (2 ^ 53) with hsmall | hgreat
  · have hsum : nearest e.seconds + e.binaryFraction ≤ ((e.seconds + 1 : ℕ) : ℚ) := by
      rw [nearest_natCast (Nat.le_of_succ_le hsmall)]
      push_cast
      linarith
    calc e.binarySeconds ≤ nearest ((e.seconds + 1 : ℕ) : ℚ) := nearest_mono hsum
      _ ≤ nearest n := nearest_mono (Nat.cast_le.mpr h)
  · have hseconds : (2 : ℚ) ^ 53 ≤ nearest e.seconds := by
      rw [← Nat.cast_ofNat, ← Nat.cast_pow, ← nearest_natCast le_rfl]
      exact nearest_mono (Nat.cast_le.mpr (by omega))
    rw [binarySeconds,
      nearest_add_of_lt_one (isBinary64_nearest _) hseconds e.binaryFraction_nonneg hfraction]
    exact nearest_mono (Nat.cast_le.mpr h.le)

/-! ## Order -/

/-- Of two spans of the same seconds, the fraction decides. -/
theorem binarySeconds_le_of_seconds_eq (h : d.seconds = e.seconds)
    (hle : d.subsecond ≤ e.subsecond) : d.binarySeconds ≤ e.binarySeconds := by
  have hfraction : d.binaryFraction ≤ e.binaryFraction :=
    nearest_mono (div_le_div_of_nonneg_right (Nat.cast_le.mpr hle) (by norm_num))
  rw [binarySeconds, binarySeconds, h]
  exact nearest_mono (add_le_add_right hfraction _)

/-- A span of fewer seconds is not rounded above one of more. -/
theorem binarySeconds_le_of_seconds_lt (h : d.seconds < e.seconds) :
    d.binarySeconds ≤ e.binarySeconds :=
  (binarySeconds_le_nearest h).trans e.nearest_le_binarySeconds

/-- Printed hundredths keep the order of the seconds that they are made of. -/
theorem hundredths_le (h : d.binarySeconds ≤ e.binarySeconds) : d.hundredths ≤ e.hundredths := by
  have hmilliseconds : d.milliseconds ≤ e.milliseconds := by
    rw [milliseconds_eq, milliseconds_eq]
    exact nearest_mono (mul_le_mul_of_nonneg_right h (by norm_num))
  exact Int.toNat_le_toNat
    (roundEven_mono (mul_le_mul_of_nonneg_right hmilliseconds (by norm_num)))

theorem seconds_ofSeconds {s n : ℕ} (h : n < 1000000000) : (ofSeconds s n).seconds = s := by
  simp only [ofSeconds, seconds]
  omega

theorem subsecond_ofSeconds {s n : ℕ} (h : n < 1000000000) : (ofSeconds s n).subsecond = n := by
  simp only [ofSeconds, subsecond]
  omega

/-- **Printed times are ordered.** Each of two spans is printed as a number of milliseconds, and the
number of the longer one is not less. -/
theorem text_ordered {s t m n : ℕ} (hm : m < 1000000000) (hn : n < 1000000000)
    (hle : s < t ∨ s = t ∧ m ≤ n) :
    (∃ q, Says (ofSeconds s m).text q) ∧ (∃ r, Says (ofSeconds t n).text r) ∧
      ∀ q r, Says (ofSeconds s m).text q → Says (ofSeconds t n).text r → q ≤ r := by
  refine ⟨⟨_, says_text _⟩, ⟨_, says_text _⟩, fun q r hq hr => ?_⟩
  have hseconds : (ofSeconds s m).binarySeconds ≤ (ofSeconds t n).binarySeconds := by
    rcases hle with hlt | ⟨heq, hle⟩
    · apply binarySeconds_le_of_seconds_lt
      rwa [seconds_ofSeconds hm, seconds_ofSeconds hn]
    · apply binarySeconds_le_of_seconds_eq
      · rw [seconds_ofSeconds hm, seconds_ofSeconds hn, heq]
      · rwa [subsecond_ofSeconds hm, subsecond_ofSeconds hn]
  rw [hq.unique (says_text _), hr.unique (says_text _)]
  exact div_le_div_of_nonneg_right (Nat.cast_le.mpr (hundredths_le hseconds)) (by norm_num)

/-- A nanosecond before `2 ^ 53` seconds the printed time is that of the full second. -/
theorem text_ordered_carry :
    let d := ofSeconds 9007199254740991 999999999
    let e := ofSeconds 9007199254740992 0
    999999999 < 1000000000 ∧ 0 < 1000000000 ∧ 9007199254740991 < 9007199254740992 ∧
      d.text = "9007199254740992000.00ms" ∧ e.text = "9007199254740992000.00ms" ∧
      (∃ q, Says d.text q) ∧ (∃ r, Says e.text r) ∧
      ∀ q r, Says d.text q → Says e.text r → q ≤ r := by
  intro d e
  exact ⟨by decide, by decide, by decide, by decide +kernel, by decide +kernel,
    text_ordered (by decide) (by decide) (.inl (by decide))⟩

end PresetBuild.Elapsed
