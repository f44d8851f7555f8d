/-
**When the product of two doubles overflows.**

Doubles are multiplied in parts: the product of the mantissas is rounded, the exponents are added.

* `exists_roundWithAccuracy`: a mantissa of many places is rounded to fifty-three of them.
* `unpack_pack`, `unpack_ofBits`: the parts of a double from its bits.
* `IsNear`: a double and a natural number that it stands for. A number well below the limit is near
  to the double it is rounded to (`isNear_ofBits`, `Decimal.isNear_toFloat`).
* `isFinite_mul`: the product of two doubles is finite if the product of the numbers is well below the
  limit, and it is not if that is well above. In between rounding decides.
-/

import DeviceMapping.Proofs.Decimal.ReadBack
import Mathlib

namespace DeviceMapping

namespace Binary64

open Float.Model (Format UnpackedFloat totalExponent)
open Float.Model.UnpackedFloat (Sign ExtendedMantissa Accuracy roundWithAccuracy
  shiftToTargetExponent shiftToExponent packComponents)

/-! ### Rounding a mantissa -/

section Rounding

variable {mantissa places : Nat} {exponent : Int}

theorem mantissa_shiftRight (extended : ExtendedMantissa) (count : Nat) :
    (extended >>> count).mantissa = extended.mantissa / 2 ^ count := by
  induction count with
  | zero => exact (Nat.div_one _).symm
  | succ count ih =>
    show (extended >>> count).mantissa / 2 = _
    rw [ih, Nat.div_div_eq_div_mul, Nat.pow_succ]

theorem roundedMantissa_bounds (extended : ExtendedMantissa) :
    extended.mantissa ≤ extended.roundedMantissa ∧
      extended.roundedMantissa ≤ extended.mantissa + 1 := by
  obtain ⟨mantissa, roundBit, stickyBit⟩ := extended
  have parity := Nat.mod_lt mantissa Nat.two_pos
  cases roundBit <;> cases stickyBit <;>
    simp only [ExtendedMantissa.roundedMantissa, ExtendedMantissa.accuracy,
      Accuracy.roundToNearestEven] <;> omega

/-- What is beyond the fifty-three places of a mantissa is shifted out. -/
theorem shiftToTargetExponent_eq (full : mantissa.log2 = 52 + places)
    (least : -1074 ≤ exponent + places) :
    shiftToTargetExponent .binary64 mantissa exponent .exact =
      ((⟨mantissa, false, false⟩ : ExtendedMantissa) >>> places, exponent + places) := by
  have count : (Format.binary64.targetExponent (totalExponent mantissa exponent) -
      exponent).toNat = places := by
    simp only [Format.targetExponent, totalExponent, Format.mantissaBits, Format.minExponent]
    omega
  simp only [shiftToTargetExponent, shiftToExponent, count]
  rfl

theorem log2_eq_of_bounds {n count : Nat} (lower : 2 ^ count ≤ n) (upper : n < 2 ^ (count + 1)) :
    n.log2 = count :=
  (Nat.log2_eq_iff (Nat.lt_of_lt_of_le (Nat.two_pow_pos count) lower).ne').mpr ⟨lower, upper⟩

/-- Rounding shifts to the last place, rounds there and shifts again. -/
theorem roundWithAccuracy_eq {accuracy : Accuracy} {first second : ExtendedMantissa}
    {place last : Int} (sign : Sign)
    (shifted : shiftToTargetExponent .binary64 mantissa exponent accuracy = (first, place))
    (again : shiftToTargetExponent .binary64 first.roundedMantissa place .exact = (second, last))
    (positive : 0 < second.mantissa) :
    roundWithAccuracy .binary64 sign mantissa exponent accuracy =
      .finite sign second.mantissa last positive := by
  simp only [roundWithAccuracy, shifted, again]
  exact dif_neg positive.ne'

/-- A mantissa is rounded to fifty-three places. Only where all of them are set it may be rounded up
to the next power of two, with an exponent larger by one. -/
theorem exists_roundWithAccuracy (full : mantissa.log2 = 52 + places)
    (least : -1074 ≤ exponent + places) (sign : Sign) :
    ∃ rounded last positive, roundWithAccuracy .binary64 sign mantissa exponent .exact =
        .finite sign rounded last positive ∧
      2 ^ 52 ≤ rounded ∧ rounded < 2 ^ 53 ∧
      (last = exponent + places ∨
        last = exponent + places + 1 ∧ 2 ^ 53 ≤ mantissa / 2 ^ places + 1) := by
  have positive : 0 < 2 ^ places := Nat.two_pow_pos places
  have mantissa_pos : mantissa ≠ 0 := by
    rintro rfl
    rw [Nat.log2_zero] at full
    omega
  have lower : 2 ^ 52 ≤ mantissa / 2 ^ places := by
    rw [Nat.le_div_iff_mul_le positive, ← Nat.pow_add, ← full]
    exact Nat.log2_self_le mantissa_pos
  have upper : mantissa / 2 ^ places < 2 ^ 53 := by
    rw [Nat.div_lt_iff_lt_mul positive, ← Nat.pow_add, Nat.add_right_comm 52 1, ← full]
    exact Nat.lt_log2_self
  have shifted := shiftToTargetExponent_eq full least
  obtain ⟨down, up⟩ :=
    roundedMantissa_bounds ((⟨mantissa, false, false⟩ : ExtendedMantissa) >>> places)
  rw [mantissa_shiftRight] at down up
  generalize (⟨mantissa, false, false⟩ : ExtendedMantissa) >>> places = first at shifted down up
  dsimp only at down up
  rcases Nat.lt_or_ge first.roundedMantissa (2 ^ 53) with small | large
  · have log : first.roundedMantissa.log2 = 52 + 0 := log2_eq_of_bounds (by omega) small
    have again := shiftToTargetExponent_eq log (by omega : -1074 ≤ exponent + places + (0 : Nat))
    have whole : ((⟨first.roundedMantissa, false, false⟩ : ExtendedMantissa) >>> 0).mantissa =
        first.roundedMantissa := by
      rw [mantissa_shiftRight, Nat.pow_zero, Nat.div_one]
    refine ⟨_, _, _, roundWithAccuracy_eq sign shifted again (by omega), ?_, ?_, .inl ?_⟩
    all_goals omega
  · have power : first.roundedMantissa = 2 ^ 53 := by omega
    have log : first.roundedMantissa.log2 = 52 + 1 := power ▸ Nat.log2_two_pow
    have again := shiftToTargetExponent_eq log (by omega : -1074 ≤ exponent + places + (1 : Nat))
    have half : ((⟨first.roundedMantissa, false, false⟩ : ExtendedMantissa) >>> 1).mantissa =
        2 ^ 52 := by
      rw [mantissa_shiftRight, power]
      decide
    refine ⟨_, _, _, roundWithAccuracy_eq sign shifted again (by omega), ?_, ?_, .inr ⟨?_, ?_⟩⟩
    all_goals omega

end Rounding

/-! ### Packing -/

section Packing

open Float.Model.UnpackedFloat (unpackMantissa_packComponents unpackExponent_packComponents
  unpackSign_packComponents)

variable {mantissa : Nat} {exponent : Int}

theorem pack_eq (lower : 2 ^ 52 ≤ mantissa) (upper : mantissa < 2 ^ 53) (most : exponent ≤ 971)
    (sign : Sign) (positive : 0 < mantissa) :
    UnpackedFloat.pack .binary64 (.finite sign mantissa exponent positive) =
      packComponents .binary64 sign (.ofNat 11 (exponent + 1075).toNat) (.ofNat 52 mantissa) := by
  have log : mantissa.log2 = 52 := log2_eq_of_bounds lower upper
  have inRange : ¬ 2 ^ 11 ≤ (exponent + 1075).toNat + 1 := by omega
  have biased : (exponent + (Format.binary64.exponentBias : Nat) +
      (Format.binary64.mantissaBitsWithoutImplicit : Nat)) = exponent + 1075 := by
    show exponent + 1023 + 52 = _
    omega
  simp only [UnpackedFloat.pack, biased, log]
  rw [if_neg inRange]
  rfl

/-- Packing loses nothing of a mantissa with fifty-three places and an exponent in range. -/
theorem unpack_pack (lower : 2 ^ 52 ≤ mantissa) (upper : mantissa < 2 ^ 53)
    (least : -1074 ≤ exponent) (most : exponent ≤ 971) (sign : Sign) (positive : 0 < mantissa) :
    UnpackedFloat.unpack .binary64
        (UnpackedFloat.pack .binary64 (.finite sign mantissa exponent positive)) =
      .finite sign mantissa exponent positive := by
  have biased : (BitVec.ofNat 11 (exponent + 1075).toNat).toNat = (exponent + 1075).toNat := by
    rw [BitVec.toNat_ofNat, Nat.mod_eq_of_lt (by omega)]
  have notLast : BitVec.ofNat 11 (exponent + 1075).toNat ≠ -1#11 := by
    intro same
    have last : (exponent + 1075).toNat = 2047 := biased.symm.trans (congrArg BitVec.toNat same)
    omega
  have notFirst : BitVec.ofNat 11 (exponent + 1075).toNat ≠ 0#11 := by
    intro same
    have first : (exponent + 1075).toNat = 0 := biased.symm.trans (congrArg BitVec.toNat same)
    omega
  have whole : (1#1 ++ BitVec.ofNat 52 mantissa).toNat = mantissa := by
    rw [BitVec.toNat_append, ← Nat.shiftLeft_add_eq_or_of_lt (BitVec.isLt _), BitVec.toNat_ofNat]
    show 1 <<< 52 + mantissa % 2 ^ 52 = mantissa
    omega
  rw [pack_eq lower upper most]
  simp only [UnpackedFloat.unpack, unpackMantissa_packComponents, unpackExponent_packComponents,
    unpackSign_packComponents, Sign.ofBitVec_toBitVec, notLast, notFirst, if_false, biased, whole]
  congr 1
  show ((exponent + 1075).toNat : Int) - (1023 + 52) = exponent
  omega

/-- The bits of a double are its packed parts. -/
theorem packComponents_eq {count : Nat} (lower : 2 ^ 52 ≤ mantissa) (upper : mantissa < 2 ^ 53)
    (most : count ≤ 2045) :
    packComponents .binary64 .positive (.ofNat 11 (count + 1)) (.ofNat 52 mantissa) =
      BitVec.ofNat 64 (count * mantissaRange + mantissa) := by
  apply BitVec.eq_of_toNat_eq
  have front : (Sign.positive.toBitVec ++ BitVec.ofNat 11 (count + 1)).toNat = count + 1 := by
    rw [BitVec.toNat_append, ← Nat.shiftLeft_add_eq_or_of_lt (BitVec.isLt _), BitVec.toNat_ofNat]
    show 0 <<< 11 + (count + 1) % 2 ^ 11 = count + 1
    omega
  have bits : (BitVec.ofNat 64 (count * mantissaRange + mantissa)).toNat =
      (count * mantissaRange + mantissa) % 2 ^ 64 := BitVec.toNat_ofNat ..
  rw [packComponents, BitVec.toNat_append, ← Nat.shiftLeft_add_eq_or_of_lt (BitVec.isLt _), front,
    BitVec.toNat_ofNat, Nat.shiftLeft_eq]
  refine Eq.trans ?_ bits.symm
  simp only [mantissaRange]
  omega

theorem unpack_ofBits {count : Nat} (lower : 2 ^ 52 ≤ mantissa) (upper : mantissa < 2 ^ 53)
    (most : count ≤ 2045) (positive : 0 < mantissa) :
    (ofBits false (count * mantissaRange + mantissa)).toModel.unpack =
      .finite .positive mantissa (count - 1074) positive := by
  have exponent : ((count : Int) - 1074 + 1075).toNat = count + 1 := by omega
  have bits : UnpackedFloat.pack .binary64 (.finite .positive mantissa (count - 1074) positive) =
      BitVec.ofNat 64 (count * mantissaRange + mantissa) := by
    rw [pack_eq lower upper (by omega), exponent, packComponents_eq lower upper most]
  have unpacked := unpack_pack lower upper (by omega : -1074 ≤ (count : Int) - 1074) (by omega)
    .positive positive
  show UnpackedFloat.unpack .binary64 (UnpackedFloat.pack .binary64
    (UnpackedFloat.unpack .binary64 (BitVec.ofNat 64 (count * mantissaRange + mantissa)))) = _
  rw [← bits, unpacked, unpacked]

/-- A double with all its places is finite up to the largest exponent. -/
theorem isFinite_pack_iff (lower : 2 ^ 52 ≤ mantissa) (upper : mantissa < 2 ^ 53)
    (least : -1074 ≤ exponent) (positive : 0 < mantissa) :
    (Float.Model.pack (.finite .positive mantissa exponent positive)).isFinite = true ↔
      exponent ≤ 971 := by
  constructor
  · intro finite
    by_contra beyond
    have outOfRange : 2 ^ 11 ≤ (exponent + 1023 + 52).toNat + 1 := by omega
    have infinite : UnpackedFloat.pack .binary64 (.finite .positive mantissa exponent positive) =
        UnpackedFloat.pack .binary64 (.infinity .positive) := if_pos outOfRange
    have packed : Float.Model.pack (.finite .positive mantissa exponent positive) =
        Float.Model.pack (.infinity .positive) := by
      simp only [Float.Model.pack, infinite]
    rw [packed] at finite
    revert finite
    decide
  · intro most
    show (UnpackedFloat.unpack .binary64 (UnpackedFloat.pack .binary64 _)).isFinite = true
    rw [unpack_pack lower upper least most]
    rfl

end Packing

/-! ### The double of a natural number -/

/-- The double is positive and has all its places, and its value differs from the number by no more
than one in `2 ^ 52`. -/
def IsNear (value : Float) (n : Nat) : Prop :=
  ∃ mantissa exponent positive,
    value.toModel.unpack = .finite .positive mantissa exponent positive ∧
    2 ^ 52 ≤ mantissa ∧ mantissa < 2 ^ 53 ∧ -52 ≤ exponent ∧
    |(mantissa : ℚ) * 2 ^ exponent - n| * 2 ^ 52 ≤ n

section Near

variable {n : Nat}

theorem beq_zero_of_isNear {value : Float} (near : IsNear value n) : (value == 0) = false := by
  obtain ⟨mantissa, exponent, positive, unpacked, -⟩ := near
  show (value.toModel.unpack.compare (0 : Float).toModel.unpack == some .eq) = false
  have zero : (0 : Float).toModel.unpack = .zero .positive := rfl
  rw [unpacked, zero]
  rfl

theorem divRound_near (numerator : Nat) {denominator : Nat} (positive : 0 < denominator) :
    |(divRound numerator denominator : ℚ) - numerator / denominator| ≤ 1 := by
  have denominator_pos : (0 : ℚ) < denominator := by exact_mod_cast positive
  have lower : ((numerator / denominator : Nat) : ℚ) ≤ numerator / denominator := Nat.cast_div_le
  have upper : (numerator : ℚ) / denominator ≤ (numerator / denominator : Nat) + 1 := by
    rw [div_le_iff₀ denominator_pos]
    exact_mod_cast (Nat.lt_mul_of_div_lt (Nat.lt_succ_self _) positive).le
  rw [abs_le]
  rcases divRound_eq_or numerator denominator with down | up
  · rw [down]
    constructor <;> linarith
  · rw [up, Nat.cast_succ]
    constructor <;> linarith

/-- In its fifty-third place a natural number is rounded to a mantissa. -/
theorem mantissa_bounds (positive : 0 < n) :
    let place : ℚ := 2 ^ ((n.log2 : Int) - 52)
    let scaled := divPower 2 ((n.log2 : Int) - 52) n 1
    2 ^ 52 ≤ divRound scaled.1 scaled.2 ∧ divRound scaled.1 scaled.2 ≤ 2 ^ 53 ∧
      |(divRound scaled.1 scaled.2 : ℚ) * place - n| ≤ place := by
  intro place scaled
  have scaled_pos : 0 < scaled.2 := divPower_snd_pos Nat.two_pos _ n Nat.one_pos
  have denominator_pos : (0 : ℚ) < scaled.2 := by exact_mod_cast scaled_pos
  have place_pos : 0 < place := by positivity
  have ratio : (scaled.1 : ℚ) / scaled.2 = n / place := by
    have ratio := divPower_ratio 2 ((n.log2 : Int) - 52) n 1
    rwa [Nat.cast_one, div_one, Nat.cast_ofNat] at ratio
  have least : 2 ^ 52 * place ≤ n := by
    have log : ((52 : Nat) : Int) + ((n.log2 : Int) - 52) = (n.log2 : Nat) := by omega
    rw [← zpow_natCast, ← zpow_add₀ two_ne_zero, log, zpow_natCast]
    exact_mod_cast Nat.log2_self_le positive.ne'
  have most : n < 2 ^ 53 * place := by
    have log : ((53 : Nat) : Int) + ((n.log2 : Int) - 52) = (n.log2 + 1 : Nat) := by omega
    rw [← zpow_natCast, ← zpow_add₀ two_ne_zero, log, zpow_natCast]
    exact_mod_cast Nat.lt_log2_self
  have lower : 2 ^ 52 ≤ scaled.1 / scaled.2 := by
    rw [← le_div_iff₀ place_pos, ← ratio, le_div_iff₀ denominator_pos] at least
    exact (Nat.le_div_iff_mul_le scaled_pos).mpr (by exact_mod_cast least)
  have upper : scaled.1 / scaled.2 < 2 ^ 53 := by
    rw [← div_lt_iff₀ place_pos, ← ratio, div_lt_iff₀ denominator_pos] at most
    exact (Nat.div_lt_iff_lt_mul scaled_pos).mpr (by exact_mod_cast most)
  refine ⟨?_, ?_, ?_⟩
  · rcases divRound_eq_or scaled.1 scaled.2 with down | up <;> omega
  · rcases divRound_eq_or scaled.1 scaled.2 with down | up <;> omega
  · have near := divRound_near scaled.1 scaled_pos
    rw [ratio] at near
    calc |(divRound scaled.1 scaled.2 : ℚ) * place - n|
        = |(divRound scaled.1 scaled.2 : ℚ) - n / place| * place := by
          rw [← abs_of_pos place_pos, ← abs_mul, abs_of_pos place_pos, sub_mul,
            div_mul_cancel₀ _ place_pos.ne']
      _ ≤ 1 * place := by gcongr
      _ = place := one_mul place

/-- A natural number well below the limit is near to the double that it is rounded to. -/
theorem isNear_ofBits (positive : 0 < n) (below : n < 3 * 2 ^ 1022) :
    IsNear (ofBits false (bitsOfRatio n 1)) n := by
  obtain ⟨lower, upper, near⟩ := mantissa_bounds positive
  have rounds := bitsOfRatio_one positive
  generalize divRound (divPower 2 ((n.log2 : Int) - 52) n 1).1
    (divPower 2 ((n.log2 : Int) - 52) n 1).2 = mantissa at lower upper near rounds
  have log : n.log2 < 2 + 1022 := by
    refine (Nat.log2_lt positive.ne').mpr ?_
    calc n < 3 * 2 ^ 1022 := below
      _ ≤ 2 ^ 2 * 2 ^ 1022 := Nat.mul_le_mul_right _ (by decide)
      _ = 2 ^ (2 + 1022) := (pow_add 2 2 1022).symm
  have place_pos : (0 : ℚ) < 2 ^ ((n.log2 : Int) - 52) := by positivity
  have least : (2 : ℚ) ^ ((n.log2 : Int) - 52) * 2 ^ 52 ≤ n := by
    have whole : (n.log2 : Int) - 52 + (52 : Nat) = (n.log2 : Nat) := by omega
    rw [← zpow_natCast (2 : ℚ) 52, ← zpow_add₀ two_ne_zero, whole, zpow_natCast]
    exact_mod_cast Nat.log2_self_le positive.ne'
  have near : |(mantissa : ℚ) * 2 ^ ((n.log2 : Int) - 52) - n| * 2 ^ 52 ≤ n :=
    le_trans (mul_le_mul_of_nonneg_right near (by positivity)) least
  rcases Nat.lt_or_ge mantissa (2 ^ 53) with small | large
  · have bits : bitsOfRatio n 1 = (n.log2 + 1022) * mantissaRange + mantissa := by
      rw [rounds, infinityBits]
      apply Nat.min_eq_left
      simp only [mantissaRange]
      omega
    have unpacked := unpack_ofBits lower small (by omega : n.log2 + 1022 ≤ 2045) (by omega)
    have exponent : ((n.log2 + 1022 : Nat) : Int) - 1074 = n.log2 - 52 := by omega
    rw [exponent] at unpacked
    exact ⟨_, _, _, bits ▸ unpacked, lower, small, by omega, near⟩
  · -- all places were set and the mantissa is rounded up
    obtain rfl : mantissa = 2 ^ 53 := Nat.le_antisymm upper large
    have notLast : n.log2 ≠ 1023 := by
      intro last
      have power : (2 : ℚ) ^ 51 * 2 ^ ((n.log2 : Int) - 52) = 2 ^ 1022 := by
        rw [last, ← zpow_natCast, ← zpow_add₀ two_ne_zero, ← zpow_natCast]
        rfl
      have below : (n : ℚ) < 3 * 2 ^ 51 * 2 ^ ((n.log2 : Int) - 52) := by
        rw [mul_assoc, power]
        exact_mod_cast below
      have gap := le_trans (mul_le_mul_of_nonneg_right (le_abs_self _) (by positivity)) near
      push_cast at gap
      linarith only [gap, below, place_pos]
    have bits : bitsOfRatio n 1 = (n.log2 + 1023) * mantissaRange + 2 ^ 52 := by
      rw [rounds, infinityBits, Nat.min_eq_left]
      all_goals
        simp only [mantissaRange]
        omega
    have unpacked := unpack_ofBits (Nat.le_refl (2 ^ 52)) (by decide)
      (by omega : n.log2 + 1023 ≤ 2045) (by decide)
    have exponent : ((n.log2 + 1023 : Nat) : Int) - 1074 = n.log2 - 52 + 1 := by omega
    rw [exponent] at unpacked
    have value : ((2 ^ 52 : Nat) : ℚ) * 2 ^ ((n.log2 : Int) - 52 + 1) =
        ((2 ^ 53 : Nat) : ℚ) * 2 ^ ((n.log2 : Int) - 52) := by
      rw [zpow_add_one₀ two_ne_zero]
      push_cast
      ring
    exact ⟨_, _, _, bits ▸ unpacked, Nat.le_refl _, by decide, by omega, value ▸ near⟩

/-- What is lost by rounding, as a share of the number. -/
theorem near_bounds {value : ℚ} (near : |value - n| * 2 ^ 52 ≤ n) :
    1023 / 1024 * n ≤ value ∧ value ≤ 1025 / 1024 * n := by
  have gap : |value - n| ≤ n / 1024 := by
    rw [le_div_iff₀ (by norm_num)]
    refine le_trans ?_ near
    gcongr
    norm_num
  obtain ⟨lower, upper⟩ := abs_le.mp gap
  constructor <;> linarith

end Near

/-! ### Products -/

section Products

variable {mantissa places : Nat} {exponent : Int}

/-- A mantissa of many places is rounded to a finite double if its value is well below the limit,
and not if it is as large as the limit. -/
theorem isFinite_round (full : mantissa.log2 = 52 + places)
    (least : -1074 ≤ exponent + places) :
    let rounded := Float.Model.pack
      (roundWithAccuracy .binary64 .positive mantissa exponent .exact)
    ((mantissa : ℚ) * 2 ^ exponent < 3 * 2 ^ 51 * 2 ^ (971 : Int) → rounded.isFinite = true) ∧
      (2 ^ 53 * 2 ^ (971 : Int) ≤ (mantissa : ℚ) * 2 ^ exponent → rounded.isFinite = false) := by
  obtain ⟨rounded, last, positive, rounds, lower, upper, place⟩ :=
    exists_roundWithAccuracy full least .positive
  have finite := isFinite_pack_iff lower upper (by omega : -1074 ≤ last) positive
  dsimp only
  rw [rounds, ← Bool.not_eq_true, finite]
  have mantissa_pos : mantissa ≠ 0 := by
    rintro rfl
    rw [Nat.log2_zero] at full
    omega
  have power_pos : (0 : ℚ) < 2 ^ exponent := by positivity
  have front : (2 : ℚ) ^ (exponent + places + 52) ≤ mantissa * 2 ^ exponent := by
    have log : exponent + places + 52 = (mantissa.log2 : Nat) + exponent := by omega
    rw [log, zpow_add₀ two_ne_zero, zpow_natCast]
    gcongr
    exact_mod_cast Nat.log2_self_le mantissa_pos
  have behind : (mantissa : ℚ) * 2 ^ exponent < 2 ^ (exponent + places + 53) := by
    have log : exponent + places + 53 = (mantissa.log2 + 1 : Nat) + exponent := by omega
    rw [log, zpow_add₀ two_ne_zero, zpow_natCast]
    gcongr
    exact_mod_cast Nat.lt_log2_self
  have limit : (2 : ℚ) ^ (971 + 53 : Int) = 2 ^ 53 * 2 ^ (971 : Int) := by
    rw [zpow_add₀ two_ne_zero, mul_comm]
    rfl
  constructor
  · intro below
    have most : (2 : ℚ) ^ (exponent + places + 52) < 2 ^ (971 + 53 : Int) := by
      rw [limit]
      refine lt_of_le_of_lt front (lt_of_lt_of_le below ?_)
      gcongr
      norm_num
    have most := (zpow_lt_zpow_iff_right₀ one_lt_two).mp most
    rcases place with same | ⟨carried, filled⟩
    · omega
    · -- with the largest exponent the places are not all set
      by_contra beyond
      obtain crowded : (places : Int) + exponent = 971 := by omega
      have filled : 3 * 2 ^ 51 * 2 ^ places ≤ mantissa :=
        (Nat.le_div_iff_mul_le (Nat.two_pow_pos places)).mp (by omega)
      refine absurd below (not_lt.mpr ?_)
      rw [← crowded, zpow_add₀ two_ne_zero, zpow_natCast, ← mul_assoc]
      gcongr
      exact_mod_cast filled
  · intro beyond
    have least : (2 : ℚ) ^ (971 + 53 : Int) < 2 ^ (exponent + places + 53) :=
      limit ▸ lt_of_le_of_lt beyond behind
    have least := (zpow_lt_zpow_iff_right₀ one_lt_two).mp least
    omega

theorem mul_eq_pack {x y : Float} {m n : Nat} {e f : Int} {m_pos : 0 < m} {n_pos : 0 < n}
    (first : x.toModel.unpack = .finite .positive m e m_pos)
    (second : y.toModel.unpack = .finite .positive n f n_pos) :
    (x * y).toModel =
      Float.Model.pack (roundWithAccuracy .binary64 .positive (m * n) (e + f) .exact) := by
  show Float.Model.pack (UnpackedFloat.mul .binary64 x.toModel.unpack y.toModel.unpack) = _
  rw [first, second]
  rfl

/-- **When the product of two doubles overflows**, by the natural numbers that they are near to. The
limit is `2 ^ 1024`. -/
theorem isFinite_mul {x y : Float} {m n : Nat} (first : IsNear x m) (second : IsNear y n) :
    ((m : ℚ) * n ≤ 5 * 2 ^ 50 * 2 ^ (971 : Int) → (x * y).isFinite = true) ∧
      (17 * 2 ^ 49 * 2 ^ (971 : Int) ≤ (m : ℚ) * n → (x * y).isFinite = false) := by
  obtain ⟨a, e, a_pos, unpacked, a_lower, -, e_least, near⟩ := first
  obtain ⟨b, f, b_pos, unpacked', b_lower, -, f_least, near'⟩ := second
  have lower : 2 ^ 104 ≤ a * b :=
    calc 2 ^ 104 = 2 ^ 52 * 2 ^ 52 := by decide
      _ ≤ a * b := Nat.mul_le_mul a_lower b_lower
  have log : 104 ≤ (a * b).log2 := (Nat.le_log2 (Nat.mul_pos a_pos b_pos).ne').mpr lower
  obtain ⟨places, full⟩ := Nat.exists_eq_add_of_le (le_trans (by decide : 52 ≤ 104) log)
  obtain ⟨finite, infinite⟩ := isFinite_round full (by omega : -1074 ≤ e + f + places)
  have value : ((a * b : Nat) : ℚ) * 2 ^ (e + f) = (a * 2 ^ e) * (b * 2 ^ f) := by
    rw [zpow_add₀ two_ne_zero]
    push_cast
    ring
  rw [value, ← mul_eq_pack unpacked unpacked'] at finite infinite
  obtain ⟨x_lower, x_upper⟩ := near_bounds near
  obtain ⟨y_lower, y_upper⟩ := near_bounds near'
  have place_pos : (0 : ℚ) < 2 ^ (971 : Int) := by positivity
  generalize (2 : ℚ) ^ (971 : Int) = place at finite infinite place_pos ⊢
  constructor
  · intro below
    refine finite ?_
    calc (a * 2 ^ e : ℚ) * (b * 2 ^ f) ≤ (1025 / 1024 * m) * (1025 / 1024 * n) := by gcongr
      _ = (1025 / 1024) ^ 2 * (m * n) := by ring
      _ ≤ (1025 / 1024) ^ 2 * (5 * 2 ^ 50 * place) := by gcongr
      _ < 3 * 2 ^ 51 * place := by linarith
  · intro beyond
    refine infinite ?_
    calc (2 ^ 53 : ℚ) * place ≤ (1023 / 1024) ^ 2 * (17 * 2 ^ 49 * place) := by linarith
      _ ≤ (1023 / 1024) ^ 2 * (m * n) := by gcongr
      _ = (1023 / 1024 * m) * (1023 / 1024 * n) := by ring
      _ ≤ (a * 2 ^ e) * (b * 2 ^ f) := by gcongr

end Products

end Binary64

namespace Decimal

theorem isNear_toFloat {digits n : Nat} (positive : 0 < digits) (moderate : n ≤ 400)
    (below : digits * 10 ^ n < 3 * 2 ^ 1022) :
    Binary64.IsNear (toFloat false ⟨digits, n⟩) (digits * 10 ^ n) := by
  have near := Binary64.isNear_ofBits (Nat.mul_pos positive (Nat.pow_pos (by decide))) below
  rwa [← bits_of_whole positive moderate] at near

end Decimal

end DeviceMapping
