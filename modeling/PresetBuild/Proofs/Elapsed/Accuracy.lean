import PresetBuild.Proofs.Elapsed.Order

/-!
# The accuracy of printed times

Below `2 ^ 32` seconds a span is printed with an error of less than 0.006 milliseconds, and a span
of whole hundredths of a millisecond is printed exactly (`text_accurate`).

Three of the four roundings move the number: that of the fraction by at most `2 ^ (-54)` seconds,
that of the sum by at most `2 ^ (-22)` seconds, and that of the product by at most `2 ^ (-12)`
milliseconds. Together this is less than half a thousandth of a millisecond
(`abs_milliseconds_sub_lt`). So what is printed of whole hundredths is these hundredths, and of
other spans it is off by half a hundredth more at most.
-/

namespace PresetBuild.Elapsed

open Binary64

variable {e : Elapsed}

/-- A span is its seconds and the fraction of a second. -/
theorem nanoseconds_eq (e : Elapsed) :
    (e.nanoseconds : ℚ) / 1000000000 = e.seconds + e.subsecond / 1000000000 := by
  have hsplit : (e.nanoseconds : ℚ) = 1000000000 * e.seconds + e.subsecond := by
    exact_mod_cast (Nat.div_add_mod e.nanoseconds 1000000000).symm
  rw [hsplit]
  ring

/-- Less than `2 ^ 32` seconds are rounded by little more than `2 ^ (-22)` seconds. -/
theorem abs_binarySeconds_sub_le (h : e.nanoseconds < 2 ^ 32 * 1000000000) :
    |e.binarySeconds - e.nanoseconds / 1000000000| ≤ 2 ^ (-22 : ℤ) + 2 ^ (-54 : ℤ) := by
  have hseconds : e.seconds + 1 ≤ 2 ^ 32 := Nat.div_lt_of_lt_mul (by omega)
  have hwhole : nearest e.seconds = e.seconds := nearest_natCast (by omega)
  have hbound : nearest e.seconds + e.binaryFraction < 2 ^ (32 : ℤ) := by
    have hseconds : (e.seconds : ℚ) + 1 ≤ 2 ^ (32 : ℤ) := by exact_mod_cast hseconds
    have hfraction := e.binaryFraction_lt_one
    rw [hwhole]
    linarith
  have hsum := abs_nearest_sub_le (add_nonneg (nearest_nonneg _) e.binaryFraction_nonneg) hbound
  calc |e.binarySeconds - e.nanoseconds / 1000000000|
      = |(e.binarySeconds - (nearest e.seconds + e.binaryFraction)) +
          (e.binaryFraction - e.subsecond / 1000000000)| := by
        rw [nanoseconds_eq, hwhole]
        congr 1
        ring
    _ ≤ |e.binarySeconds - (nearest e.seconds + e.binaryFraction)| +
          |e.binaryFraction - e.subsecond / 1000000000| := abs_add_le _ _
    _ ≤ 2 ^ (-22 : ℤ) + 2 ^ (-54 : ℤ) := add_le_add hsum e.abs_binaryFraction_sub_le

/-- **The milliseconds of a span in binary64** are off by less than half a thousandth. -/
theorem abs_milliseconds_sub_lt (h : e.nanoseconds < 2 ^ 32 * 1000000000) :
    |e.milliseconds - e.nanoseconds / 1000000| < 1 / 2000 := by
  have hseconds := abs_le.mp (abs_binarySeconds_sub_le h)
  have hspan : (e.nanoseconds : ℚ) < 2 ^ 32 * 1000000000 := by exact_mod_cast h
  have hbound : e.binarySeconds * 1000 < 2 ^ (42 : ℤ) := by
    norm_num at hseconds ⊢
    linarith
  have hproduct := abs_nearest_sub_le (mul_nonneg e.binarySeconds_nonneg (by norm_num)) hbound
  rw [← milliseconds_eq, abs_le] at hproduct
  norm_num at hseconds hproduct
  rw [abs_lt]
  constructor <;> linarith

/-- The hundredths that are printed are the nearest ones to the milliseconds in binary64. -/
theorem hundredths_eq (e : Elapsed) : (e.hundredths : ℚ) = roundEven (e.milliseconds * 100) := by
  have hround : 0 ≤ roundEven (e.milliseconds * 100) := by
    rw [← roundEven_intCast 0]
    exact roundEven_mono (mul_nonneg e.milliseconds_nonneg (by norm_num))
  exact_mod_cast Int.toNat_of_nonneg hround

/-- What is printed is off by less than 0.006 milliseconds. -/
theorem abs_hundredths_sub_lt (h : e.nanoseconds < 2 ^ 32 * 1000000000) :
    |(e.hundredths : ℚ) / 100 - e.nanoseconds / 1000000| < 6 / 1000 := by
  have hbinary := abs_lt.mp (abs_milliseconds_sub_lt h)
  have hround := abs_le.mp (abs_roundEven_sub_le (e.milliseconds * 100))
  rw [← hundredths_eq] at hround
  rw [abs_lt]
  constructor <;> linarith

/-- Whole hundredths of a millisecond are printed as they are. -/
theorem hundredths_eq_of_dvd (h : e.nanoseconds < 2 ^ 32 * 1000000000)
    (hdvd : 10000 ∣ e.nanoseconds) : (e.hundredths : ℚ) / 100 = e.nanoseconds / 1000000 := by
  obtain ⟨n, hn⟩ := hdvd
  have hbinary := abs_lt.mp (abs_milliseconds_sub_lt h)
  rw [hn] at hbinary ⊢
  push_cast at hbinary ⊢
  have hround : roundEven (e.milliseconds * 100) = n := by
    apply roundEven_eq_of_abs_lt
    rw [Int.cast_natCast, abs_lt]
    constructor <;> linarith
  rw [hundredths_eq, hround, Int.cast_natCast]
  ring

/-- **Printed times are accurate.** A span below `2 ^ 32` seconds is printed as a number of
milliseconds. The number is less than 0.006 away from the span, and is the span where that is a
whole number of hundredths. -/
theorem text_accurate (h : e.nanoseconds < 2 ^ 32 * 1000000000) :
    (∃ q, Says e.text q) ∧
      ∀ q, Says e.text q → |q - e.nanoseconds / 1000000| < 6 / 1000 ∧
        (10000 ∣ e.nanoseconds → q = e.nanoseconds / 1000000) := by
  refine ⟨⟨_, says_text e⟩, fun q hq => ?_⟩
  rw [hq.unique (says_text e)]
  exact ⟨abs_hundredths_sub_lt h, hundredths_eq_of_dvd h⟩

/-- In the last second below the limit: a span of whole hundredths, and one that is printed further
from itself than half a hundredth. -/
theorem text_accurate_last :
    let d := ofSeconds 4294967295 999990000
    let e := ofSeconds 4294967295 15001
    d.nanoseconds < 2 ^ 32 * 1000000000 ∧ e.nanoseconds < 2 ^ 32 * 1000000000 ∧
      d.text = "4294967295999.99ms" ∧ e.text = "4294967295000.01ms" ∧
      10000 ∣ d.nanoseconds ∧ (∃ q, Says d.text q ∧ q = d.nanoseconds / 1000000) ∧
      ∃ q, Says e.text q ∧ |q - e.nanoseconds / 1000000| < 6 / 1000 := by
  intro d e
  have hd : d.nanoseconds < 2 ^ 32 * 1000000000 := by decide
  have he : e.nanoseconds < 2 ^ 32 * 1000000000 := by decide
  have hdvd : 10000 ∣ d.nanoseconds := by decide
  obtain ⟨⟨q, hq⟩, hexact⟩ := text_accurate hd
  obtain ⟨⟨r, hr⟩, hclose⟩ := text_accurate he
  exact ⟨hd, he, by decide +kernel, by decide +kernel, hdvd, ⟨q, hq, (hexact q hq).2 hdvd⟩,
    r, hr, (hclose r hr).1⟩

end PresetBuild.Elapsed
