/-
**Rounding depends on the ratio alone.**

`bitsOfRatio` is given a numerator and a denominator and computes with both. Multiplying the two by
the same number changes nothing (`bitsOfRatio_mul`), and a ratio that is a double already is rounded
to that double (`bitsOfRatio_ratioOfBits`). Both rest on the exponent that rounding starts from
being the logarithm of the ratio (`floorLog2_eq_log`).
-/

import DeviceMapping.Decimal.Shortest
import Mathlib.Algebra.Order.Field.Power
import Mathlib.Data.Int.Log
import Mathlib.Data.Rat.Floor
import Mathlib.Tactic.Ring
import Mathlib.Tactic.FieldSimp
import Mathlib.Tactic.Positivity
import Mathlib.Tactic.Linarith

namespace DeviceMapping.Binary64

/-! ### Quotients -/

theorem divRound_mul {factor : Nat} (positive : 0 < factor) (numerator denominator : Nat) :
    divRound (numerator * factor) (denominator * factor) = divRound numerator denominator := by
  have below : ∀ first second : Nat, first * factor < second * factor ↔ first < second :=
    fun first second => Nat.mul_lt_mul_right positive
  simp only [divRound, Nat.mul_div_mul_right _ _ positive, Nat.mul_mod_mul_right, ← Nat.mul_assoc,
    below]

theorem divRound_of_mul (quotient : Nat) {denominator : Nat} (positive : 0 < denominator) :
    divRound (quotient * denominator) denominator = quotient := by
  simp [divRound, Nat.mul_div_cancel _ positive, positive]

/-- Rounding gives one of the two neighbours. -/
theorem divRound_eq_or (numerator denominator : Nat) :
    divRound numerator denominator = numerator / denominator ∨
      divRound numerator denominator = numerator / denominator + 1 := by
  unfold divRound
  dsimp only
  split
  · exact .inl rfl
  · split
    · exact .inr rfl
    · omega

theorem divPower_mul (base : Nat) (exponent : Int) (numerator denominator factor : Nat) :
    divPower base exponent (numerator * factor) (denominator * factor) =
      ((divPower base exponent numerator denominator).1 * factor,
        (divPower base exponent numerator denominator).2 * factor) := by
  cases exponent with
  | ofNat n => simp [divPower, Nat.mul_right_comm]
  | negSucc n => simp [divPower, Nat.mul_right_comm]

theorem divPower_snd_pos {base denominator : Nat} (base_pos : 0 < base) (exponent : Int)
    (numerator : Nat) (positive : 0 < denominator) :
    0 < (divPower base exponent numerator denominator).2 := by
  cases exponent with
  | ofNat n => exact Nat.mul_pos positive (Nat.pow_pos base_pos)
  | negSucc n => exact positive

/-- What `divPower` stands for. -/
theorem divPower_ratio (base : Nat) (exponent : Int) (numerator denominator : Nat) :
    ((divPower base exponent numerator denominator).1 : ℚ) /
        (divPower base exponent numerator denominator).2 =
      numerator / denominator / (base : ℚ) ^ exponent := by
  cases exponent with
  | ofNat n => simp [divPower, div_div]
  | negSucc n =>
    rw [zpow_negSucc]
    simp [divPower, div_eq_mul_inv, mul_right_comm]

/-! ### The exponent of a ratio -/

section Logarithm

variable {numerator denominator : Nat}

/-- The logarithm of a ratio is that of the numerator less that of the denominator, or one less. -/
theorem log_ratio_bounds (numerator_pos : 0 < numerator) (denominator_pos : 0 < denominator) :
    (2 : ℚ) ^ ((numerator.log2 : Int) - denominator.log2 - 1) ≤ (numerator : ℚ) / denominator ∧
      (numerator : ℚ) / denominator < 2 ^ ((numerator.log2 : Int) - denominator.log2 + 1) := by
  have bounds : ∀ n : Nat, 0 < n → (2 : ℚ) ^ n.log2 ≤ n ∧ (n : ℚ) < 2 ^ (n.log2 + 1) := by
    intro n positive
    exact ⟨by exact_mod_cast Nat.log2_self_le positive.ne', by exact_mod_cast Nat.lt_log2_self⟩
  obtain ⟨numerator_le, numerator_lt⟩ := bounds numerator numerator_pos
  obtain ⟨denominator_le, denominator_lt⟩ := bounds denominator denominator_pos
  have positive : (0 : ℚ) < denominator := by exact_mod_cast denominator_pos
  constructor
  · rw [le_div_iff₀ positive]
    calc (2 : ℚ) ^ ((numerator.log2 : Int) - denominator.log2 - 1) * denominator
        ≤ 2 ^ ((numerator.log2 : Int) - denominator.log2 - 1) * 2 ^ (denominator.log2 + 1) := by
          gcongr
      _ = 2 ^ numerator.log2 := by
          rw [← zpow_natCast, ← zpow_natCast, ← zpow_add₀ two_ne_zero]
          congr 1
          push_cast
          ring
      _ ≤ numerator := numerator_le
  · rw [div_lt_iff₀ positive]
    calc (numerator : ℚ) < 2 ^ (numerator.log2 + 1) := numerator_lt
      _ = 2 ^ ((numerator.log2 : Int) - denominator.log2 + 1) * 2 ^ denominator.log2 := by
          rw [← zpow_natCast, ← zpow_natCast, ← zpow_add₀ two_ne_zero]
          congr 1
          push_cast
          ring
      _ ≤ 2 ^ ((numerator.log2 : Int) - denominator.log2 + 1) * denominator := by
          gcongr

theorem log_eq {ratio : ℚ} {exponent : Int} (lower : 2 ^ exponent ≤ ratio)
    (upper : ratio < 2 ^ (exponent + 1)) : Int.log 2 ratio = exponent := by
  have positive : 0 < ratio := lt_of_lt_of_le (by positivity) lower
  have least := (Int.zpow_le_iff_le_log (b := 2) (by decide) positive).mp (by exact_mod_cast lower)
  have most := (Int.lt_zpow_iff_log_lt (b := 2) (by decide) positive).mp (by exact_mod_cast upper)
  omega

theorem floorLog2_eq_log (numerator_pos : 0 < numerator) (denominator_pos : 0 < denominator) :
    floorLog2 numerator denominator = Int.log 2 ((numerator : ℚ) / denominator) := by
  obtain ⟨lower, upper⟩ := log_ratio_bounds numerator_pos denominator_pos
  generalize guess : (numerator.log2 : Int) - denominator.log2 = exponent at lower upper
  have scaled_pos := divPower_snd_pos (by decide : 0 < 2) exponent numerator denominator_pos
  have below : (divPower 2 exponent numerator denominator).1 <
      (divPower 2 exponent numerator denominator).2 ↔
        (numerator : ℚ) / denominator < 2 ^ exponent := by
    have denominator_pos : (0 : ℚ) < (divPower 2 exponent numerator denominator).2 := by
      exact_mod_cast scaled_pos
    rw [← Nat.cast_lt (α := ℚ), ← div_lt_one denominator_pos, divPower_ratio,
      div_lt_one (by positivity)]
    norm_num
  symm
  unfold floorLog2
  simp only [guess, below]
  split
  · rename_i small
    exact log_eq lower (by simpa using small)
  · rename_i large
    exact log_eq (not_lt.mp large) upper

theorem floorLog2_one (positive : 0 < numerator) : floorLog2 numerator 1 = numerator.log2 := by
  have noLess : ¬ numerator < 2 ^ numerator.log2 := Nat.not_lt.mpr (Nat.log2_self_le positive.ne')
  have one : Nat.log2 1 = 0 := by decide
  simp [floorLog2, divPower, one, noLess]

/-- The logarithm is that of the ratio, whatever numbers it is written with. -/
theorem floorLog2_mul {factor : Nat} (positive : 0 < factor) (numerator_pos : 0 < numerator)
    (denominator_pos : 0 < denominator) :
    floorLog2 (numerator * factor) (denominator * factor) = floorLog2 numerator denominator := by
  rw [floorLog2_eq_log numerator_pos denominator_pos,
    floorLog2_eq_log (Nat.mul_pos numerator_pos positive) (Nat.mul_pos denominator_pos positive)]
  have nonzero : (factor : ℚ) ≠ 0 := by exact_mod_cast positive.ne'
  push_cast
  rw [mul_div_mul_right _ _ nonzero]

end Logarithm

/-! ### The nearest double -/

/-- How a natural number is rounded: its last place is the fifty-third from the front. -/
theorem bitsOfRatio_one {digits : Nat} (positive : 0 < digits) :
    bitsOfRatio digits 1 =
      min ((digits.log2 + 1022) * mantissaRange +
        divRound (divPower 2 ((digits.log2 : Int) - 52) digits 1).1
          (divPower 2 ((digits.log2 : Int) - 52) digits 1).2) infinityBits := by
  have last : max ((digits.log2 : Int) - 52) leastExponent = digits.log2 - 52 := by
    simp only [leastExponent]
    omega
  have count : ((digits.log2 : Int) - 52 - leastExponent).toNat = digits.log2 + 1022 := by
    simp only [leastExponent]
    omega
  simp only [bitsOfRatio, if_neg positive.ne', floorLog2_one positive, last, count]

theorem bitsOfRatio_mul {factor : Nat} (positive : 0 < factor) (numerator : Nat) {denominator : Nat}
    (denominator_pos : 0 < denominator) :
    bitsOfRatio (numerator * factor) (denominator * factor) =
      bitsOfRatio numerator denominator := by
  by_cases zero : numerator = 0
  · simp [zero, bitsOfRatio]
  · have numerator_pos := Nat.pos_of_ne_zero zero
    have nonzero : numerator * factor ≠ 0 := (Nat.mul_pos numerator_pos positive).ne'
    simp only [bitsOfRatio, if_neg zero, if_neg nonzero,
      floorLog2_mul positive numerator_pos denominator_pos, divPower_mul, divRound_mul positive]

/-- The mantissa and the exponent of a double other than zero. -/
theorem decode_bounds {bits : Nat} (positive : 0 < bits) :
    0 < (decode bits).1 ∧
      max (((decode bits).1.log2 : Int) + (decode bits).2 - 52) leastExponent = (decode bits).2 ∧
      ((decode bits).2 - leastExponent).toNat * mantissaRange + (decode bits).1 = bits := by
  have parts : mantissaRange * (bits / mantissaRange) + bits % mantissaRange = bits :=
    Nat.div_add_mod bits mantissaRange
  have below : bits % mantissaRange < mantissaRange := Nat.mod_lt _ (by decide)
  unfold decode
  generalize bits / mantissaRange = biased at parts
  generalize bits % mantissaRange = fraction at parts below
  dsimp only
  split
  · rename_i subnormal
    have nonzero : fraction ≠ 0 := by
      rintro rfl
      simp [subnormal] at parts
      omega
    have small : fraction.log2 < 52 := (Nat.log2_lt nonzero).mpr below
    refine ⟨Nat.pos_of_ne_zero nonzero, ?_, ?_⟩
    · simp only [leastExponent]
      omega
    · simpa [subnormal] using parts
  · rename_i normal
    have log : (fraction + mantissaRange).log2 = 52 := by
      rw [Nat.log2_eq_iff (by simp [mantissaRange])]
      simp only [mantissaRange] at below ⊢
      omega
    refine ⟨by simp [mantissaRange], ?_, ?_⟩
    · simp only [log, leastExponent]
      omega
    · have count : ((biased : Int) - 1 + leastExponent - leastExponent).toNat = biased - 1 := by
        omega
      simp only [count, mantissaRange] at parts ⊢
      omega

theorem ratioOfBits_ratio (bits : Nat) :
    ((ratioOfBits bits).1 : ℚ) / (ratioOfBits bits).2 =
      (decode bits).1 * (2 : ℚ) ^ (decode bits).2 := by
  unfold ratioOfBits
  dsimp only
  split
  · rename_i n exponent
    simp [exponent]
  · rename_i n exponent
    rw [exponent, zpow_negSucc]
    simp [div_eq_mul_inv]

theorem ratioOfBits_pos {bits : Nat} (positive : 0 < bits) :
    0 < (ratioOfBits bits).1 ∧ 0 < (ratioOfBits bits).2 := by
  have mantissa_pos := (decode_bounds positive).1
  unfold ratioOfBits
  dsimp only
  split
  · exact ⟨Nat.mul_pos mantissa_pos (Nat.pow_pos (by decide)), Nat.one_pos⟩
  · exact ⟨mantissa_pos, Nat.pow_pos (by decide)⟩

theorem floorLog2_ratioOfBits {bits : Nat} (positive : 0 < bits) :
    floorLog2 (ratioOfBits bits).1 (ratioOfBits bits).2 =
      (decode bits).1.log2 + (decode bits).2 := by
  have mantissa_pos := (decode_bounds positive).1
  obtain ⟨numerator_pos, denominator_pos⟩ := ratioOfBits_pos positive
  rw [floorLog2_eq_log numerator_pos denominator_pos, ratioOfBits_ratio]
  apply log_eq
  · rw [zpow_add₀ two_ne_zero]
    gcongr
    rw [zpow_natCast]
    exact_mod_cast Nat.log2_self_le mantissa_pos.ne'
  · rw [add_right_comm, zpow_add₀ two_ne_zero]
    gcongr
    have upper : (decode bits).1 < 2 ^ ((decode bits).1.log2 + 1) := Nat.lt_log2_self
    exact_mod_cast upper

/-- A ratio that is a double is rounded to itself. -/
theorem bitsOfRatio_ratioOfBits {bits : Nat} (positive : 0 < bits) (finite : bits < infinityBits) :
    bitsOfRatio (ratioOfBits bits).1 (ratioOfBits bits).2 = bits := by
  obtain ⟨mantissa_pos, last, whole⟩ := decode_bounds positive
  obtain ⟨numerator_pos, denominator_pos⟩ := ratioOfBits_pos positive
  have scaled_pos := divPower_snd_pos (by decide : 0 < 2) (decode bits).2 (ratioOfBits bits).1
    denominator_pos
  -- in the last place of the double the ratio is its mantissa
  have mantissa : (divPower 2 (decode bits).2 (ratioOfBits bits).1 (ratioOfBits bits).2).1 =
      (decode bits).1 *
        (divPower 2 (decode bits).2 (ratioOfBits bits).1 (ratioOfBits bits).2).2 := by
    have ratio := divPower_ratio 2 (decode bits).2 (ratioOfBits bits).1 (ratioOfBits bits).2
    have nonzero : ((divPower 2 (decode bits).2 (ratioOfBits bits).1 (ratioOfBits bits).2).2 : ℚ) ≠
        0 := by
      exact_mod_cast scaled_pos.ne'
    rw [ratioOfBits_ratio, Nat.cast_ofNat, mul_div_cancel_right₀ _ (by positivity),
      div_eq_iff nonzero] at ratio
    exact_mod_cast ratio
  simp only [bitsOfRatio, if_neg numerator_pos.ne', floorLog2_ratioOfBits positive, last, mantissa,
    divRound_of_mul _ scaled_pos, whole]
  exact Nat.min_eq_left finite.le

end DeviceMapping.Binary64
