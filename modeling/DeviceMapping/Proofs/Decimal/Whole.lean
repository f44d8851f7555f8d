/-
**Whole numbers are written with the fraction zero.**

The double nearest to a natural number is a natural number (`isWhole_bitsOfRatio`): below `2 ^ 53` it
is the number itself, and above that no double has a fraction. The last place of its shortest decimal
is the ones or one before them (`exponent_shortest`), for on the grid of the natural numbers it is
found.
-/

import DeviceMapping.Proofs.Decimal.ReadBack

namespace DeviceMapping

namespace Binary64

/-- The double of these bits is a natural number. -/
def IsWhole (bits : Nat) : Prop :=
  (ratioOfBits bits).2 ∣ (ratioOfBits bits).1

/-! ### The double of a natural number -/

section Nearest

variable {bits digits mantissa : Nat}

theorem isWhole_of_exponent (large : 0 ≤ (decode bits).2) : IsWhole bits := by
  obtain ⟨n, exponent⟩ := Int.eq_ofNat_of_zero_le large
  rw [IsWhole, ratioOfBits, exponent]
  exact Nat.one_dvd _

theorem isWhole_of_dvd {n : Nat} (decoded : decode bits = (mantissa, .negSucc n))
    (whole : 2 ^ (n + 1) ∣ mantissa) : IsWhole bits := by
  rw [IsWhole, ratioOfBits, decoded]
  exact whole

/-- The bits of a mantissa with all of its fifty-three places. -/
theorem decode_of_mantissa (count : Nat) (lower : mantissaRange ≤ mantissa)
    (upper : mantissa < 2 * mantissaRange) :
    decode (count * mantissaRange + mantissa) = (mantissa, (count : Int) + leastExponent) := by
  have positive : 0 < mantissaRange := by decide
  obtain ⟨fraction, rfl⟩ := Nat.exists_eq_add_of_le lower
  have parts : count * mantissaRange + (mantissaRange + fraction) =
      fraction + mantissaRange * (count + 1) := by
    rw [Nat.mul_succ, Nat.mul_comm]
    omega
  have small : fraction < mantissaRange := by omega
  rw [decode, parts, Nat.add_mul_div_left _ _ positive, Nat.add_mul_mod_self_left,
    Nat.mod_eq_of_lt small, Nat.div_eq_of_lt small]
  simp only [Nat.zero_add, Nat.succ_ne_zero, if_false, Prod.mk.injEq]
  omega

/-- A mantissa that all places are left for has an exponent at least as large as its count. -/
theorem le_decode (count : Nat) (lower : mantissaRange ≤ mantissa) :
    (count : Int) + leastExponent ≤ (decode (count * mantissaRange + mantissa)).2 := by
  have positive : 0 < mantissaRange := by decide
  have biased : count + 1 ≤ (count * mantissaRange + mantissa) / mantissaRange := by
    rw [Nat.le_div_iff_mul_le positive, Nat.succ_mul]
    exact Nat.add_le_add_left lower _
  have normal : (count * mantissaRange + mantissa) / mantissaRange ≠ 0 := by omega
  simp only [decode, if_neg normal]
  omega

/-- The double nearest to a natural number is a natural number. -/
theorem isWhole_bitsOfRatio (positive : 0 < digits)
    (finite : bitsOfRatio digits 1 < infinityBits) : IsWhole (bitsOfRatio digits 1) := by
  have rounds := bitsOfRatio_one positive
  rw [min_eq_left (by omega)] at rounds
  rw [rounds]
  cases exponent : (digits.log2 : Int) - 52 with
  | negSucc n =>
    -- shifted to the left the number is a mantissa of its own
    have size : digits.log2 + (n + 1) = 52 := by omega
    have lower : mantissaRange ≤ digits * 2 ^ (n + 1) :=
      calc mantissaRange = 2 ^ digits.log2 * 2 ^ (n + 1) := by rw [← Nat.pow_add, size, mantissaRange]
        _ ≤ digits * 2 ^ (n + 1) := Nat.mul_le_mul_right _ (Nat.log2_self_le positive.ne')
    have upper : digits * 2 ^ (n + 1) < 2 * mantissaRange :=
      calc digits * 2 ^ (n + 1) < 2 ^ (digits.log2 + 1) * 2 ^ (n + 1) :=
            Nat.mul_lt_mul_of_pos_right Nat.lt_log2_self (Nat.pow_pos (by decide))
        _ = 2 * mantissaRange := by rw [← Nat.pow_add, Nat.add_right_comm, size, mantissaRange]
    have mantissa : divRound (digits * 2 ^ (n + 1)) 1 = digits * 2 ^ (n + 1) := by
      have whole := divRound_of_mul (digits * 2 ^ (n + 1)) Nat.one_pos
      rwa [Nat.mul_one] at whole
    have last : ((digits.log2 + 1022 : Nat) : Int) + leastExponent = .negSucc n := by
      simp only [leastExponent]
      omega
    have decoded := decode_of_mantissa (digits.log2 + 1022) lower upper
    rw [last] at decoded
    have bits : divRound (divPower 2 (.negSucc n) digits 1).1 (divPower 2 (.negSucc n) digits 1).2 =
        digits * 2 ^ (n + 1) := mantissa
    rw [bits]
    exact isWhole_of_dvd decoded (Nat.dvd_mul_left _ _)
  | ofNat n =>
    have size : digits.log2 = 52 + n := by
      rw [Int.ofNat_eq_natCast] at exponent
      omega
    have quotient : mantissaRange ≤ digits / 2 ^ n := by
      rw [Nat.le_div_iff_mul_le (Nat.pow_pos (by decide))]
      calc mantissaRange * 2 ^ n = 2 ^ digits.log2 := by rw [size, Nat.pow_add, mantissaRange]
        _ ≤ digits := Nat.log2_self_le positive.ne'
    have rounded : mantissaRange ≤ divRound digits (1 * 2 ^ n) := by
      rw [Nat.one_mul]
      rcases divRound_eq_or digits (2 ^ n) with down | up
      · exact down ▸ quotient
      · exact up ▸ Nat.le_succ_of_le quotient
    have last := le_decode (digits.log2 + 1022) rounded
    refine isWhole_of_exponent (le_trans ?_ last)
    simp only [leastExponent]
    omega

end Nearest

/-! ### Its shortest decimal -/

section Shortest

variable {bits : Nat}

theorem exponent_of_nearestAt {place : Int} {decimal : Decimal}
    (nearest : nearestAt bits place = some decimal) : decimal.exponent = place := by
  unfold nearestAt at nearest
  dsimp only at nearest
  split at nearest
  · split at nearest
    · cases nearest
      rfl
    · cases nearest
      rfl
  · split at nearest
    · cases nearest
      rfl
    · cases nearest

/-- A natural number is found on the grid of natural numbers. -/
theorem nearestAt_zero (positive : 0 < bits) (finite : bits < infinityBits) (whole : IsWhole bits) :
    nearestAt bits 0 ≠ none := by
  obtain ⟨numerator_pos, denominator_pos⟩ := ratioOfBits_pos positive
  obtain ⟨n, same⟩ := whole
  have number : (ratioOfBits bits).1 / (ratioOfBits bits).2 = n := by
    rw [same, Nat.mul_div_cancel_left _ denominator_pos]
  have n_pos : 0 < n := by
    rw [same] at numerator_pos
    exact Nat.pos_of_mul_pos_left numerator_pos
  have reads : Decimal.bits ⟨n, 0⟩ = bits := by
    have exact := bitsOfRatio_ratioOfBits positive finite
    have scaled := bitsOfRatio_mul denominator_pos n Nat.one_pos
    rw [Nat.one_mul, Nat.mul_comm, ← same, exact] at scaled
    have rounds := Decimal.bits_of_whole n_pos (Nat.zero_le 400)
    rw [Nat.pow_zero, Nat.mul_one, ← scaled] at rounds
    exact rounds
  have below : Decimal.bits ⟨(ratioOfBits bits).1 / ((ratioOfBits bits).2 * Nat.pow 10 0), 0⟩ =
      bits := by
    rw [Nat.pow_eq, Nat.pow_zero, Nat.mul_one, number, reads]
  unfold nearestAt
  dsimp only [divPower]
  rw [if_pos below]
  split
  · nofun
  · nofun

/-- The search ends on the grid of the natural numbers at the latest, or its double is one of those
without a fraction. -/
theorem exponent_searchPlaces (positive : 0 < bits) (finite : bits < infinityBits)
    (whole : IsWhole bits) {places : Nat} {place : Int} (above : 0 ≤ place)
    (ends : place < places ∨ 0 ≤ (decode bits).2) : 0 ≤ (searchPlaces bits places place).exponent := by
  induction places generalizing place with
  | zero =>
    obtain ⟨n, exponent⟩ := Int.eq_ofNat_of_zero_le (ends.resolve_left (by omega))
    simp only [searchPlaces, exactDecimal, exponent]
    exact le_refl 0
  | succ places ih =>
    rw [searchPlaces]
    cases nearest : nearestAt bits place with
    | some decimal => exact (exponent_of_nearestAt nearest).symm ▸ above
    | none =>
      have notOnes : place ≠ 0 := by
        rintro rfl
        exact nearestAt_zero positive finite whole nearest
      exact ih (by omega) (ends.imp_left (by omega))

/-- The shortest decimal of a double that is a natural number has no fraction. -/
theorem exponent_shortest (finite : bits < infinityBits) (whole : IsWhole bits) :
    0 ≤ (shortest bits).exponent := by
  unfold shortest
  by_cases zero : bits = 0
  · rw [if_pos zero]
  · rw [if_neg zero]
    have positive := Nat.pos_of_ne_zero zero
    obtain ⟨mantissa_pos, last, -⟩ := decode_bounds positive
    have places : (decode bits).1.log2 ≤ 52 := by omega
    cases exponent : (decode bits).2 with
    | ofNat n =>
      have large : 0 ≤ (decode bits).2 := by
        rw [exponent]
        exact Int.natCast_nonneg n
      refine exponent_searchPlaces positive finite whole ?_ (.inr large)
      simp only [placeAbove]
      omega
    | negSucc n =>
      -- the mantissa has a bit for every place behind the point, and at most fifty-three
      have shifted : 2 ^ (n + 1) ∣ (decode bits).1 := by
        have divides := whole
        rw [IsWhole, ratioOfBits, exponent] at divides
        exact divides
      have bits_le : n + 1 ≤ (decode bits).1.log2 := by
        rw [Nat.le_log2 mantissa_pos.ne']
        exact Nat.le_of_dvd mantissa_pos shifted
      refine exponent_searchPlaces positive finite whole ?_ (.inl ?_)
      · simp only [placeAbove, exponent]
        omega
      · simp only [placeAbove, exponent]
        omega

end Shortest

end Binary64

/-- The text of a natural number of finite value ends with the fraction zero. -/
theorem positional_whole (digits : Nat) (finite : Decimal.bits ⟨digits, 0⟩ < Binary64.infinityBits) :
    ∃ n, (Binary64.shortest (Decimal.bits ⟨digits, 0⟩)).positional = digitsOf n ++ ['.', '0'] := by
  have whole : Binary64.IsWhole (Decimal.bits ⟨digits, 0⟩) := by
    by_cases zero : digits = 0
    · subst zero
      exact Nat.dvd_zero _
    · have positive := Nat.pos_of_ne_zero zero
      have rounds := Decimal.bits_of_whole positive (Nat.zero_le 400)
      rw [Nat.pow_zero, Nat.mul_one] at rounds
      rw [show (0 : Int) = .ofNat 0 from rfl, rounds] at finite ⊢
      exact Binary64.isWhole_bitsOfRatio positive finite
  obtain ⟨n, exponent⟩ := Int.eq_ofNat_of_zero_le (Binary64.exponent_shortest finite whole)
  refine ⟨(Binary64.shortest (Decimal.bits ⟨digits, 0⟩)).digits * 10 ^ n, ?_⟩
  simp only [Decimal.positional, exponent]
  rfl

end DeviceMapping
