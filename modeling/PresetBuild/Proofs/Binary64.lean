import Mathlib.Algebra.Order.Field.Power
import Mathlib.Data.Int.Log
import Mathlib.Data.Rat.Floor
import Mathlib.Tactic.Linarith
import Mathlib.Tactic.Positivity
import Mathlib.Tactic.Ring
import PresetBuild.Binary64

/-!
# Rounding to 53 bits

Three facts about `nearest` carry whatever is computed with it. A number of 53 significant bits is
not changed (`nearest_of_isBinary64`). A greater number is not rounded to a lesser one
(`nearest_mono`). And what is rounded moves by at most half a step of the grid around it, which
below `2 ^ e` is at most `2 ^ (e - 54)` (`abs_nearest_sub_le`).

All three come from the same facts about the nearest integer, because `nearest` is that integer
counted in steps. Order is kept across the powers of two, where the step changes, because no number
is rounded past a power of two.
-/

namespace PresetBuild.Binary64

variable {q r : ℚ}

/-! ## The nearest integer -/

/-- The nearest integer is the one below, if the rest is no more than a half, or the next one, if it
is no less. -/
theorem roundEven_cases (q : ℚ) :
    roundEven q = ⌊q⌋ ∧ 2 * (q - ⌊q⌋) ≤ 1 ∨ roundEven q = ⌊q⌋ + 1 ∧ 1 ≤ 2 * (q - ⌊q⌋) := by
  show roundEven q = q.floor ∧ 2 * (q - q.floor) ≤ 1 ∨
    roundEven q = q.floor + 1 ∧ 1 ≤ 2 * (q - q.floor)
  unfold roundEven
  dsimp only
  split
  · next hless => exact .inl ⟨rfl, hless.le⟩
  · next hless =>
    split
    · next hmore => exact .inr ⟨rfl, hmore.le⟩
    · next hmore =>
      split
      · exact .inl ⟨rfl, not_lt.mp hmore⟩
      · exact .inr ⟨rfl, not_lt.mp hless⟩

/-- The nearest integer is within a half. -/
theorem abs_roundEven_sub_le (q : ℚ) : |(roundEven q : ℚ) - q| ≤ 1 / 2 := by
  have hfloor := Int.floor_le q
  have hceil := Int.lt_floor_add_one q
  rcases roundEven_cases q with ⟨hround, hrest⟩ | ⟨hround, hrest⟩
  · rw [hround, abs_le]
    constructor <;> linarith
  · rw [hround, abs_le]
    push_cast
    constructor <;> linarith

/-- An integer less than a half away is the nearest one. -/
theorem roundEven_eq_of_abs_lt {k : ℤ} (h : |q - k| < 1 / 2) : roundEven q = k := by
  have hround := abs_le.mp (abs_roundEven_sub_le q)
  have hnear := abs_lt.mp h
  have hless : ((roundEven q : ℤ) : ℚ) < (k + 1 : ℤ) := by push_cast; linarith
  have hmore : ((k : ℤ) : ℚ) < (roundEven q + 1 : ℤ) := by push_cast; linarith
  have hless := Int.cast_lt.mp hless
  have hmore := Int.cast_lt.mp hmore
  omega

@[simp] theorem roundEven_intCast (k : ℤ) : roundEven (k : ℚ) = k :=
  roundEven_eq_of_abs_lt (by simp)

/-- **The nearest integer keeps order**: were it to fall, the two numbers would lie within a half of
the same place between two integers, and so be one number. -/
theorem roundEven_mono (hle : q ≤ r) : roundEven q ≤ roundEven r := by
  by_contra hfall
  have hq := abs_le.mp (abs_roundEven_sub_le q)
  have hr := abs_le.mp (abs_roundEven_sub_le r)
  have hstep : ((roundEven r + 1 : ℤ) : ℚ) ≤ roundEven q := Int.cast_le.mpr (not_le.mp hfall)
  push_cast at hstep
  have heq : q = r := by linarith
  exact hfall (heq ▸ le_rfl)

/-! ## The grid -/

/-- The exponent is the one whose power is not greater, while the next power is. -/
theorem log_eq_of_mem {e : ℤ} (low : (2 : ℚ) ^ e ≤ q) (high : q < (2 : ℚ) ^ (e + 1)) :
    Int.log 2 q = e := by
  have hq : 0 < q := lt_of_lt_of_le (by positivity) low
  have hle : e ≤ Int.log 2 q := (Int.zpow_le_iff_le_log one_lt_two hq).mp (by exact_mod_cast low)
  have hlt : Int.log 2 q < e + 1 :=
    (Int.lt_zpow_iff_log_lt one_lt_two hq).mp (by exact_mod_cast high)
  omega

/-- The lengths of numerator and denominator leave the exponent and the one above it. -/
theorem exponent_eq_log (hq : 0 < q) : exponent q = Int.log 2 q := by
  have hnum : q.num.natAbs ≠ 0 := Int.natAbs_ne_zero.mpr (Rat.num_pos.mpr hq).ne'
  have hquot : q = q.num.natAbs / q.den := by
    rw [Nat.cast_natAbs, abs_of_pos (Rat.num_pos.mpr hq), Rat.num_div_den]
  have hnumLow : (2 : ℚ) ^ (q.num.natAbs.log2 : ℤ) ≤ q.num.natAbs := by
    exact_mod_cast Nat.log2_self_le hnum
  have hnumHigh : (q.num.natAbs : ℚ) < 2 ^ ((q.num.natAbs.log2 : ℤ) + 1) := by
    exact_mod_cast Nat.lt_log2_self
  have hden : (0 : ℚ) < q.den := by exact_mod_cast q.den_pos
  have hdenLow : (2 : ℚ) ^ (q.den.log2 : ℤ) ≤ q.den := by
    exact_mod_cast Nat.log2_self_le q.den_ne_zero
  have hdenHigh : (q.den : ℚ) < 2 ^ ((q.den.log2 : ℤ) + 1) := by
    exact_mod_cast Nat.lt_log2_self
  unfold exponent
  dsimp only
  generalize (q.num.natAbs.log2 : ℤ) = a at hnumLow hnumHigh ⊢
  generalize (q.den.log2 : ℤ) = b at hdenLow hdenHigh ⊢
  have low : (2 : ℚ) ^ (a - b - 1) ≤ q := by
    calc (2 : ℚ) ^ (a - b - 1) = 2 ^ a / 2 ^ (b + 1) := by
          rw [← zpow_sub₀ two_ne_zero, sub_add_eq_sub_sub]
      _ ≤ q.num.natAbs / q.den := by gcongr
      _ = q := hquot.symm
  have high : q < (2 : ℚ) ^ (a - b + 1) := by
    calc q = q.num.natAbs / q.den := hquot
      _ < 2 ^ (a + 1) / q.den := by gcongr
      _ ≤ 2 ^ (a + 1) / 2 ^ b := by gcongr
      _ = (2 : ℚ) ^ (a - b + 1) := by rw [← zpow_sub₀ two_ne_zero, add_sub_right_comm]
  split
  · next h => exact (log_eq_of_mem h high).symm
  · next h => exact (log_eq_of_mem low (by rw [sub_add_cancel]; exact not_le.mp h)).symm

theorem step_pos (q : ℚ) : 0 < step q := by
  unfold step
  positivity

theorem step_eq (hq : 0 < q) : step q = 2 ^ (Int.log 2 q - 52) := by
  rw [step, exponent_eq_log hq]

/-- The power of two below a number is `2 ^ 52` steps. -/
theorem low_steps (hq : 0 < q) : ((2 ^ 52 : ℤ) : ℚ) * step q = 2 ^ Int.log 2 q := by
  rw [step_eq hq, zpow_sub₀ two_ne_zero]
  norm_num
  ring

/-- The power of two above a number is `2 ^ 53` steps. -/
theorem high_steps (hq : 0 < q) : ((2 ^ 53 : ℤ) : ℚ) * step q = 2 ^ (Int.log 2 q + 1) := by
  rw [step_eq hq, zpow_sub₀ two_ne_zero, zpow_add_one₀ two_ne_zero]
  norm_num
  ring

/-- A number has at least `2 ^ 52` steps. -/
theorem le_div_step (hq : 0 < q) : ((2 ^ 52 : ℤ) : ℚ) ≤ q / step q := by
  rw [le_div_iff₀ (step_pos q), low_steps hq]
  exact_mod_cast Int.zpow_log_le_self one_lt_two hq

/-- A number has fewer than `2 ^ 53` steps. -/
theorem div_step_lt (hq : 0 < q) : q / step q < ((2 ^ 53 : ℤ) : ℚ) := by
  rw [div_lt_iff₀ (step_pos q), high_steps hq]
  exact_mod_cast Int.lt_zpow_succ_log_self one_lt_two q

/-! ## The nearest number -/

theorem nearest_of_pos (hq : 0 < q) : nearest q = roundEven (q / step q) * step q :=
  if_neg (not_le.mpr hq)

theorem nearest_of_nonpos (hq : q ≤ 0) : nearest q = 0 :=
  if_pos hq

/-- A number is rounded to at least `2 ^ 52` steps. -/
theorem le_roundEven_div_step (hq : 0 < q) : 2 ^ 52 ≤ roundEven (q / step q) := by
  rw [← roundEven_intCast (2 ^ 52)]
  exact roundEven_mono (le_div_step hq)

/-- A number is rounded to at most `2 ^ 53` steps. -/
theorem roundEven_div_step_le (hq : 0 < q) : roundEven (q / step q) ≤ 2 ^ 53 := by
  rw [← roundEven_intCast (2 ^ 53)]
  exact roundEven_mono (div_step_lt hq).le

/-- No number is rounded below the power of two below it. -/
theorem zpow_log_le_nearest (hq : 0 < q) : 2 ^ Int.log 2 q ≤ nearest q := by
  rw [nearest_of_pos hq, ← low_steps hq]
  exact mul_le_mul_of_nonneg_right (Int.cast_le.mpr (le_roundEven_div_step hq)) (step_pos q).le

/-- No number is rounded above the power of two above it. -/
theorem nearest_le_zpow_log (hq : 0 < q) : nearest q ≤ 2 ^ (Int.log 2 q + 1) := by
  rw [nearest_of_pos hq, ← high_steps hq]
  exact mul_le_mul_of_nonneg_right (Int.cast_le.mpr (roundEven_div_step_le hq)) (step_pos q).le

theorem nearest_nonneg (q : ℚ) : 0 ≤ nearest q := by
  rcases le_or_gt q 0 with hq | hq
  · exact (nearest_of_nonpos hq).ge
  · exact (zpow_pos two_pos _).le.trans (zpow_log_le_nearest hq)

/-- **Rounding keeps order.** Between two powers of two it counts the same steps; across one it
stays on its side. -/
theorem nearest_mono : Monotone nearest := by
  intro q r hle
  rcases le_or_gt q 0 with hq | hq
  · exact (nearest_of_nonpos hq).trans_le (nearest_nonneg r)
  have hr : 0 < r := lt_of_lt_of_le hq hle
  rcases (Int.log_mono_right (b := 2) hq hle).eq_or_lt with hlog | hlog
  · have hstep : step q = step r := by rw [step_eq hq, step_eq hr, hlog]
    rw [nearest_of_pos hq, nearest_of_pos hr, hstep]
    have hround : roundEven (q / step r) ≤ roundEven (r / step r) :=
      roundEven_mono (div_le_div_of_nonneg_right hle (step_pos r).le)
    exact mul_le_mul_of_nonneg_right (Int.cast_le.mpr hround) (step_pos r).le
  · calc nearest q ≤ 2 ^ (Int.log 2 q + 1) := nearest_le_zpow_log hq
      _ ≤ 2 ^ Int.log 2 r := zpow_le_zpow_right₀ one_le_two hlog
      _ ≤ nearest r := zpow_log_le_nearest hr

/-- A number moves by at most half a step. -/
theorem abs_nearest_sub_le_step (hq : 0 < q) : |nearest q - q| ≤ 1 / 2 * step q := by
  have hstep := step_pos q
  have hmoved : nearest q - q = (roundEven (q / step q) - q / step q) * step q := by
    rw [nearest_of_pos hq, sub_mul, div_mul_cancel₀ _ hstep.ne']
  rw [hmoved, abs_mul, abs_of_pos hstep]
  exact mul_le_mul_of_nonneg_right (abs_roundEven_sub_le _) hstep.le

/-- **What rounding moves** below a power of two. -/
theorem abs_nearest_sub_le {e : ℤ} (hq : 0 ≤ q) (h : q < 2 ^ e) :
    |nearest q - q| ≤ 2 ^ (e - 54) := by
  rcases hq.eq_or_lt with rfl | hpos
  · rw [nearest_of_nonpos le_rfl, sub_zero, abs_zero]
    positivity
  have hlog : Int.log 2 q + 1 ≤ e :=
    (Int.lt_zpow_iff_log_lt one_lt_two hpos).mp (by exact_mod_cast h)
  calc |nearest q - q| ≤ 1 / 2 * step q := abs_nearest_sub_le_step hpos
    _ = 2 ^ (Int.log 2 q + 1 - 54) := by
        rw [step_eq hpos, one_div, ← zpow_neg_one, ← zpow_add₀ two_ne_zero]; congr 1; ring
    _ ≤ 2 ^ (e - 54) := zpow_le_zpow_right₀ one_le_two (sub_le_sub_right hlog 54)

/-! ## Numbers of 53 bits -/

/-- **A number of 53 significant bits.** -/
def IsBinary64 (q : ℚ) : Prop :=
  ∃ (m : ℕ) (e : ℤ), m < 2 ^ 53 ∧ q = m * 2 ^ e

theorem IsBinary64.nonneg (h : IsBinary64 q) : 0 ≤ q := by
  obtain ⟨m, e, -, rfl⟩ := h
  positivity

theorem isBinary64_natCast {n : ℕ} (h : n < 2 ^ 53) : IsBinary64 n :=
  ⟨n, 0, h, by rw [zpow_zero, mul_one]⟩

/-- A number of 53 bits is a whole number of steps. -/
theorem IsBinary64.exists_div_step (h : IsBinary64 q) (hq : 0 < q) : ∃ n : ℤ, q / step q = n := by
  obtain ⟨m, e, hm, rfl⟩ := h
  have hlog : Int.log 2 ((m : ℚ) * 2 ^ e) < 53 + e := by
    apply (Int.lt_zpow_iff_log_lt one_lt_two hq).mp
    rw [Nat.cast_ofNat, zpow_add₀ two_ne_zero]
    exact mul_lt_mul_of_pos_right (by exact_mod_cast hm) (zpow_pos two_pos e)
  obtain ⟨k, hk⟩ := Int.eq_ofNat_of_zero_le
    (show 0 ≤ e - (Int.log 2 ((m : ℚ) * 2 ^ e) - 52) by omega)
  refine ⟨m * 2 ^ k, ?_⟩
  rw [step_eq hq, mul_div_assoc, ← zpow_sub₀ two_ne_zero, hk]
  push_cast
  rw [zpow_natCast]

/-- **A number of 53 bits is not changed.** -/
theorem nearest_of_isBinary64 (h : IsBinary64 q) : nearest q = q := by
  rcases h.nonneg.eq_or_lt with rfl | hq
  · exact nearest_of_nonpos le_rfl
  obtain ⟨n, hn⟩ := h.exists_div_step hq
  rw [nearest_of_pos hq, hn, roundEven_intCast, ← hn, div_mul_cancel₀ _ (step_pos q).ne']

/-- **What is rounded has 53 bits.** -/
theorem isBinary64_nearest (q : ℚ) : IsBinary64 (nearest q) := by
  rcases le_or_gt q 0 with hq | hq
  · rw [nearest_of_nonpos hq]
    exact_mod_cast isBinary64_natCast (n := 0) (by norm_num)
  have hlow := le_roundEven_div_step hq
  obtain ⟨n, hn⟩ := Int.eq_ofNat_of_zero_le (show 0 ≤ roundEven (q / step q) by omega)
  rw [nearest_of_pos hq, hn, Int.cast_natCast, step]
  rcases (show n ≤ 2 ^ 53 by have := roundEven_div_step_le hq; omega).eq_or_lt with htop | hless
  · -- Rounded up to a power of two, a number has one bit and a greater exponent.
    refine ⟨1, 53 + (exponent q - 52), by norm_num, ?_⟩
    rw [htop, zpow_add₀ two_ne_zero]
    norm_num
  · exact ⟨n, _, hless, rfl⟩

/-- From `2 ^ 53` on a step is at least two. -/
theorem two_le_step (hq : 2 ^ 53 ≤ q) : 2 ≤ step q := by
  have hpos : 0 < q := lt_of_lt_of_le (by norm_num) hq
  have hlog : 53 ≤ Int.log 2 q :=
    (Int.zpow_le_iff_le_log one_lt_two hpos).mp (by exact_mod_cast hq)
  rw [step_eq hpos]
  calc (2 : ℚ) = 2 ^ (1 : ℤ) := (zpow_one 2).symm
    _ ≤ 2 ^ (Int.log 2 q - 52) := zpow_le_zpow_right₀ one_le_two (by omega)

/-- **From `2 ^ 53` on a rest below one is lost**: less than half a step is added, which leads to no
other number, and not to the next power of two either, because that is a whole step away. -/
theorem nearest_add_of_lt_one (h : IsBinary64 q) (hq : 2 ^ 53 ≤ q) (hr : 0 ≤ r) (hr1 : r < 1) :
    nearest (q + r) = q := by
  have hpos : 0 < q := lt_of_lt_of_le (by norm_num) hq
  have hstep := two_le_step hq
  obtain ⟨n, hn⟩ := h.exists_div_step hpos
  have hsteps : q = n * step q := by rw [← hn, div_mul_cancel₀ _ (step_pos q).ne']
  have hroom : n + 1 ≤ 2 ^ 53 := by
    have hless := div_step_lt hpos
    rw [hn] at hless
    exact Int.cast_lt.mp hless
  have hhigh : q + r < 2 ^ (Int.log 2 q + 1) := by
    calc q + r < n * step q + step q := by linarith
      _ = (n + 1 : ℤ) * step q := by push_cast; ring
      _ ≤ (2 ^ 53 : ℤ) * step q :=
          mul_le_mul_of_nonneg_right (Int.cast_le.mpr hroom) (step_pos q).le
      _ = 2 ^ (Int.log 2 q + 1) := high_steps hpos
  have hlow : (2 : ℚ) ^ Int.log 2 q ≤ q := by
    exact_mod_cast Int.zpow_log_le_self one_lt_two hpos
  have hsum : 0 < q + r := by linarith
  have hsame : step (q + r) = step q := by
    rw [step_eq hsum, step_eq hpos, log_eq_of_mem (by linarith) hhigh]
  have hround : roundEven ((q + r) / step q) = n := by
    apply roundEven_eq_of_abs_lt
    rw [add_div, hn, add_sub_cancel_left, abs_of_nonneg (div_nonneg hr (step_pos q).le),
      div_lt_iff₀ (step_pos q)]
    linarith
  rw [nearest_of_pos hsum, hsame, hround, ← hsteps]

end PresetBuild.Binary64
