/-
**Shortest decimals read back.**

* `bits_shortest`: the shortest decimal of a finite double is rounded to that double again. Where a
  grid is found this holds by the search, and the double itself is a decimal that needs no rounding
  (`bits_exactDecimal`).
* `readDecimal?_positional`: plain decimal text is read as the decimal it was written from, or as
  the same number with one more digit (`bits_tenfold`).
-/

import DeviceMapping.Proofs.Decimal.Rounding
import DeviceMapping.Proofs.Json.Scalar

namespace DeviceMapping

/-! ### The double of a decimal -/

namespace Decimal

variable {digits n : Nat}

theorem bits_of_whole (positive : 0 < digits) (moderate : n ≤ 400) :
    bits ⟨digits, .ofNat n⟩ = Binary64.bitsOfRatio (digits * 10 ^ n) 1 := by
  have least : ¬ (n : Int) + digits.log2 < -400 := by omega
  have most : ¬ 400 < (n : Int) := by omega
  simp [bits, positive.ne', least, most]

theorem bits_of_fraction (positive : 0 < digits) (sizable : n + 1 ≤ digits.log2 + 400) :
    bits ⟨digits, .negSucc n⟩ = Binary64.bitsOfRatio digits (10 ^ (n + 1)) := by
  have least : ¬ Int.negSucc n + digits.log2 < -400 := by omega
  have most : ¬ 400 < Int.negSucc n := by omega
  simp [bits, positive.ne', least, most]

/-- One more digit before the point and one more behind it make the same number. -/
theorem bits_tenfold (digits n : Nat)
    (finite : bits ⟨digits, .ofNat n⟩ < Binary64.infinityBits) :
    bits ⟨digits * 10 ^ n * 10, -1⟩ = bits ⟨digits, .ofNat n⟩ := by
  by_cases zero : digits = 0
  · simp [zero, bits]
  · have positive := Nat.pos_of_ne_zero zero
    have moderate : n ≤ 400 := by
      by_contra large
      have most : 400 < (n : Int) := by omega
      simp [bits, zero, most] at finite
    have scaled_pos : 0 < digits * 10 ^ n := Nat.mul_pos positive (Nat.pow_pos (by decide))
    rw [bits_of_whole positive moderate,
      show (-1 : Int) = .negSucc 0 from rfl, bits_of_fraction (by omega) (by omega)]
    exact Binary64.bitsOfRatio_mul (by decide : 0 < 10) _ Nat.one_pos

/-- The mantissa of a natural number has fifty-three bits. -/
theorem quotient_lt (digits : Nat) :
    (Binary64.divPower 2 ((digits.log2 : Int) - 52) digits 1).1 /
      (Binary64.divPower 2 ((digits.log2 : Int) - 52) digits 1).2 < 2 ^ 53 := by
  have below : digits < 2 ^ (digits.log2 + 1) := Nat.lt_log2_self
  cases exponent : (digits.log2 : Int) - 52 with
  | ofNat n =>
    have size : digits.log2 + 1 = 53 + n := by
      rw [Int.ofNat_eq_natCast] at exponent
      omega
    have split : 2 ^ (digits.log2 + 1) = 2 ^ 53 * 2 ^ n := by rw [size, Nat.pow_add]
    rw [split] at below
    simpa [Binary64.divPower] using (Nat.div_lt_iff_lt_mul (Nat.pow_pos (by decide))).mpr below
  | negSucc n =>
    have size : digits.log2 + 1 + (n + 1) = 53 := by omega
    have split : 2 ^ 53 = 2 ^ (digits.log2 + 1) * 2 ^ (n + 1) := by rw [← Nat.pow_add, size]
    have positive : 0 < 2 ^ (n + 1) := Nat.pow_pos (by decide)
    rw [split]
    simpa [Binary64.divPower] using Nat.mul_lt_mul_of_pos_right below positive

/-- Numbers below `2 ^ 63` are finite doubles. -/
theorem bits_lt_of_small (small : digits < 2 ^ 63) :
    bits ⟨digits, 0⟩ < Binary64.infinityBits := by
  by_cases zero : digits = 0
  · simp [zero, bits, Binary64.infinityBits, Binary64.mantissaRange]
  · have positive := Nat.pos_of_ne_zero zero
    have log_lt : digits.log2 < 63 := (Nat.log2_lt zero).mpr small
    have whole := bits_of_whole positive (Nat.zero_le 400)
    rw [Nat.pow_zero, Nat.mul_one] at whole
    have quotient := quotient_lt digits
    have rounded := Binary64.divRound_eq_or
      (Binary64.divPower 2 ((digits.log2 : Int) - 52) digits 1).1
      (Binary64.divPower 2 ((digits.log2 : Int) - 52) digits 1).2
    rw [show (0 : Int) = .ofNat 0 from rfl, whole, Binary64.bitsOfRatio_one positive]
    refine lt_of_le_of_lt (Nat.min_le_left _ _) ?_
    simp only [Binary64.infinityBits, Binary64.mantissaRange]
    omega

end Decimal

namespace Binary64

theorem le_log2_five_pow (mantissa n : Nat) (positive : 0 < mantissa) :
    n ≤ (mantissa * 5 ^ n).log2 := by
  have scaled_pos : 0 < mantissa * 5 ^ n := Nat.mul_pos positive (Nat.pow_pos (by decide))
  rw [Nat.le_log2 scaled_pos.ne']
  calc 2 ^ n ≤ 5 ^ n := Nat.pow_le_pow_left (by decide) n
    _ ≤ mantissa * 5 ^ n := Nat.le_mul_of_pos_left _ positive

theorem bits_exactDecimal {bits : Nat} (positive : 0 < bits) (finite : bits < infinityBits) :
    (exactDecimal bits).bits = bits := by
  have mantissa_pos := (decode_bounds positive).1
  have exact := bitsOfRatio_ratioOfBits positive finite
  unfold ratioOfBits at exact
  unfold exactDecimal
  dsimp only at exact ⊢
  cases exponent : (decode bits).2 with
  | ofNat n =>
    rw [exponent] at exact
    have scaled_pos : 0 < (decode bits).1 * 2 ^ n :=
      Nat.mul_pos mantissa_pos (Nat.pow_pos (by decide))
    have whole := Decimal.bits_of_whole scaled_pos (Nat.zero_le 400)
    rw [Nat.pow_zero, Nat.mul_one] at whole
    exact whole.trans exact
  | negSucc n =>
    rw [exponent] at exact
    have sizable := le_log2_five_pow (decode bits).1 (n + 1) mantissa_pos
    have scaled_pos : 0 < (decode bits).1 * 5 ^ (n + 1) :=
      Nat.mul_pos mantissa_pos (Nat.pow_pos (by decide))
    have fraction := Decimal.bits_of_fraction scaled_pos (Nat.le_add_right_of_le sizable)
    have scaled : (10 : Nat) ^ (n + 1) = 2 ^ (n + 1) * 5 ^ (n + 1) := Nat.mul_pow 2 5 (n + 1)
    rw [scaled, bitsOfRatio_mul (Nat.pow_pos (by decide)) _ (Nat.pow_pos (by decide))] at fraction
    exact fraction.trans exact

theorem bits_of_nearestAt {bits : Nat} {place : Int} {decimal : Decimal}
    (nearest : nearestAt bits place = some decimal) : decimal.bits = bits := by
  unfold nearestAt at nearest
  dsimp only at nearest
  split at nearest
  · rename_i below
    split at nearest
    · rename_i above
      cases nearest
      rcases divRound_eq_or (divPower 10 place (ratioOfBits bits).1 (ratioOfBits bits).2).1
        (divPower 10 place (ratioOfBits bits).1 (ratioOfBits bits).2).2 with down | up
      · rw [down]
        exact below
      · rw [up]
        exact above
    · cases nearest
      exact below
  · split at nearest
    · rename_i above
      cases nearest
      exact above
    · cases nearest

theorem bits_searchPlaces {bits : Nat} (positive : 0 < bits) (finite : bits < infinityBits)
    (places : Nat) (place : Int) : (searchPlaces bits places place).bits = bits := by
  induction places generalizing place with
  | zero => exact bits_exactDecimal positive finite
  | succ places ih =>
    unfold searchPlaces
    cases nearest : nearestAt bits place with
    | none => exact ih (place - 1)
    | some decimal => exact bits_of_nearestAt nearest

/-- The shortest decimal of a finite double is rounded to that double again. -/
theorem bits_shortest {bits : Nat} (finite : bits < infinityBits) : (shortest bits).bits = bits := by
  unfold shortest
  by_cases zero : bits = 0
  · rw [if_pos zero, zero]
    rfl
  · rw [if_neg zero]
    exact bits_searchPlaces (Nat.pos_of_ne_zero zero) finite 22 (placeAbove bits)

end Binary64

/-! ### Plain decimal text -/

/-- Digits, a point and digits, at least one on either side. -/
def IsPlain (text : List Char) : Prop :=
  ∃ whole fraction : List Char, text = whole ++ '.' :: fraction ∧ whole ≠ [] ∧ fraction ≠ [] ∧
    ∀ digit ∈ whole ++ fraction, digit.isDigit = true

theorem isDigit_of_mem_digitsOf {n : Nat} {c : Char} (member : c ∈ digitsOf n) :
    c.isDigit = true :=
  Nat.isDigit_of_mem_toDigits (by decide) (by decide) member

theorem digitsOf_ne_nil (n : Nat) : digitsOf n ≠ [] :=
  Nat.toDigits_ne_nil

theorem digitsValue_append (first second : List Char) :
    digitsValue (first ++ second) =
      digitsValue first * 10 ^ second.length + digitsValue second := by
  have split : digitsValue (first ++ second) = Nat.ofDigitChars 10 second (digitsValue first) :=
    Nat.ofDigitChars_append 0
  rw [split, Nat.ofDigitChars_eq_ofDigitChars_zero, Nat.mul_comm]
  rfl

theorem digitsValue_zeros (count : Nat) : digitsValue (List.replicate count '0') = 0 := by
  have zeros : Nat.ofDigitChars 10 (List.replicate count '0') 0 = 10 ^ count * 0 :=
    Nat.ofDigitChars_replicate_zero
  exact zeros.trans (Nat.mul_zero _)

/-- A number and its fraction are read as one number. -/
theorem readDecimal?_pointed {whole fraction : List Char} (some : whole ≠ [])
    (digits : ∀ digit ∈ whole ++ fraction, digit.isDigit = true) :
    readDecimal? (whole ++ '.' :: fraction) =
      Option.some ⟨digitsValue (whole ++ fraction), -fraction.length⟩ := by
  have wholeDigits : ∀ digit ∈ whole, digit.isDigit = true := fun digit member =>
    digits digit (List.mem_append_left _ member)
  have fractionDigits : ∀ digit ∈ fraction, digit.isDigit = true := fun digit member =>
    digits digit (List.mem_append_right _ member)
  have front : (whole ++ '.' :: fraction).takeWhile Char.isDigit = whole := by
    simp [List.takeWhile_append_of_pos wholeDigits]
  have back : (whole ++ '.' :: fraction).dropWhile Char.isDigit = '.' :: fraction := by
    simp [List.dropWhile_append_of_pos wholeDigits]
  simp [readDecimal?, front, back, List.takeWhile_eq_self_iff.mpr fractionDigits,
    List.dropWhile_eq_nil_iff.mpr fractionDigits, some, readExponent?]

/-- Plain decimal text is plain, and it is read as a decimal of the same double. -/
theorem readDecimal?_positional (decimal : Decimal)
    (finite : decimal.bits < Binary64.infinityBits) :
    IsPlain decimal.positional ∧ ∃ read, readDecimal? decimal.positional = some read ∧
      read.bits = decimal.bits := by
  obtain ⟨digits, exponent⟩ := decimal
  cases exponent with
  | ofNat n =>
    have plain : ∀ digit ∈ digitsOf (digits * 10 ^ n) ++ ['0'], digit.isDigit = true := by
      intro digit member
      rcases List.mem_append.mp member with whole | fraction
      · exact isDigit_of_mem_digitsOf whole
      · rw [List.mem_singleton.mp fraction]
        rfl
    refine ⟨⟨_, _, rfl, digitsOf_ne_nil _, nofun, plain⟩, _,
      readDecimal?_pointed (digitsOf_ne_nil _) plain, ?_⟩
    rw [digitsValue_append, Json.digitsValue_digitsOf]
    exact Decimal.bits_tenfold digits n finite
  | negSucc n =>
    let unit := 10 ^ (n + 1)
    let zeros := List.replicate (n + 1 - (digitsOf (digits % unit)).length) '0'
    have unit_pos : 0 < unit := Nat.pow_pos (by decide)
    have short : (digitsOf (digits % unit)).length ≤ n + 1 :=
      (Nat.length_toDigits_le_iff (by decide) (by omega)).mpr (Nat.mod_lt _ unit_pos)
    have length : (zeros ++ digitsOf (digits % unit)).length = n + 1 := by
      simp [zeros]
      omega
    have plain : ∀ digit ∈ digitsOf (digits / unit) ++ (zeros ++ digitsOf (digits % unit)),
        digit.isDigit = true := by
      intro digit member
      simp only [List.mem_append] at member
      rcases member with whole | zero | fraction
      · exact isDigit_of_mem_digitsOf whole
      · rw [List.eq_of_mem_replicate zero]
        rfl
      · exact isDigit_of_mem_digitsOf fraction
    have nonempty : zeros ++ digitsOf (digits % unit) ≠ [] :=
      List.append_ne_nil_of_right_ne_nil _ (digitsOf_ne_nil _)
    have value : digitsValue (digitsOf (digits / unit) ++ (zeros ++ digitsOf (digits % unit))) =
        digits := by
      rw [digitsValue_append, length, digitsValue_append, digitsValue_zeros, Json.digitsValue_digitsOf,
        Json.digitsValue_digitsOf, Nat.zero_mul, Nat.zero_add]
      exact Nat.div_add_mod' digits unit
    have reads := readDecimal?_pointed (digitsOf_ne_nil _) plain
    rw [value, length] at reads
    exact ⟨⟨_, _, rfl, digitsOf_ne_nil _, nonempty, plain⟩, _, reads, rfl⟩

end DeviceMapping
