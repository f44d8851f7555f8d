/-
**How large a number in a JSON text may be.**

The reader takes the first digits of a number as a significand and scales it by a power of ten, and
no double is left where that overflows.

* `significand_near`: the digits that are left out make up no more than a hundredth of the number.
* `scaleTen?_eq_none_iff`, `scaled_bounds`: only scaling up can overflow, and whether it does shows
  in the number.
* `magnitude_bounds`: so no number below `10 ^ 308` is too large, and every number is from twice as
  much on.
* `denotes_iff`: the value of a number is what it denotes.
-/

import DeviceMapping.Proofs.Decimal.Overflow
import DeviceMapping.Proofs.Json.Scalar

namespace DeviceMapping.Json

/-! ### Significands -/

section Digits

variable {digits whole fraction : List Char}

theorem digitsValue_singleton_le {digit : Char} (isDigit : digit.isDigit = true) :
    digitsValue [digit] ≤ 9 := by
  have code : digit.toNat ≤ 57 := by
    simp only [Char.isDigit, Bool.and_eq_true, decide_eq_true_eq] at isDigit
    exact isDigit.2
  show 10 * 0 + (digit.toNat - '0'.toNat) ≤ 9
  have zero : '0'.toNat = 48 := rfl
  omega

theorem digitsValue_cons (digit : Char) (rest : List Char) :
    digitsValue (digit :: rest) = digitsValue [digit] * 10 ^ rest.length + digitsValue rest :=
  digitsValue_append [digit] rest

theorem digitsValue_lt (all : ∀ digit ∈ digits, digit.isDigit = true) :
    digitsValue digits < 10 ^ digits.length := by
  induction digits with
  | nil => exact Nat.one_pos
  | cons digit rest ih =>
    have later := ih fun other member => all other (List.mem_cons_of_mem _ member)
    have first := digitsValue_singleton_le (all digit List.mem_cons_self)
    have most := Nat.mul_le_mul_right (10 ^ rest.length) first
    rw [digitsValue_cons digit rest, List.length_cons, Nat.pow_succ]
    omega

/-- The digits taken up are the first ones, and where any are left the significand is large. -/
theorem exists_takeDigits (digits : List Char) (significand : Nat)
    (all : ∀ digit ∈ digits, digit.isDigit = true) (small : significand < 2 ^ 64) :
    ∃ first behind value, digits = first ++ behind ∧
      takeDigits significand digits = (value, first.length) ∧ value < 2 ^ 64 ∧
      value = significand * 10 ^ first.length + digitsValue first ∧
      (behind ≠ [] → 100 ≤ value) := by
  induction digits generalizing significand with
  | nil => exact ⟨[], [], significand, rfl, rfl, small, (Nat.mul_one _).symm, nofun⟩
  | cons digit rest ih =>
    have last := digitsValue_singleton_le (all digit List.mem_cons_self)
    unfold takeDigits
    dsimp only
    split
    · rename_i fits
      obtain ⟨first, behind, value, split, taken, below, is, large⟩ :=
        ih (10 * significand + digitsValue [digit])
          (fun other member => all other (List.mem_cons_of_mem _ member)) fits
      refine ⟨digit :: first, behind, value, by rw [split, List.cons_append], ?_, below, ?_, large⟩
      · rw [taken, List.length_cons]
      · rw [is, digitsValue_cons digit first, List.length_cons, Nat.pow_succ]
        ring
    · rename_i large
      exact ⟨[], digit :: rest, significand, rfl, rfl, small, (Nat.mul_one _).symm,
        fun _ => by omega⟩

/-- Two numbers that begin with the same digits, of which one has lost some in the middle and at the
end, are near to each other if what they share is large. -/
theorem digits_near {a b c d p q r : Nat} (b_lt : b < p) (c_lt : c < q) (d_lt : d < r)
    (middle : p ≠ 1 → 100 ≤ a) (last : r ≠ 1 → 100 ≤ a * q + c) :
    100 * ((a * q + c) * (p * r)) ≤ 101 * ((a * p + b) * (q * r) + (c * r + d)) ∧
      100 * ((a * p + b) * (q * r) + (c * r + d)) ≤ 101 * ((a * q + c) * (p * r)) := by
  by_cases kept : p = 1
  · subst kept
    obtain rfl : b = 0 := by omega
    have all : (a * 1 + 0) * (q * r) + (c * r + d) = (a * q + c) * r + d := by ring
    have small : 100 * d ≤ (a * q + c) * r := by
      by_cases whole : r = 1
      · omega
      · have large := Nat.mul_le_mul_right r (last whole)
        omega
    rw [all, Nat.one_mul]
    omega
  · have large := Nat.mul_le_mul_right (p * q * r) (middle kept)
    have first : (a * q + c) * (p * r) = a * (p * q * r) + c * p * r := by ring
    have second : (a * p + b) * (q * r) + (c * r + d) =
        a * (p * q * r) + ((b * q + c) * r + d) := by ring
    have c_small : c * p * r ≤ p * q * r := by
      rw [Nat.mul_comm c p]
      gcongr
    have small : (b * q + c) * r + d ≤ p * q * r := by
      calc (b * q + c) * r + d ≤ (b * q + c) * r + r := by gcongr
        _ = (b * q + (c + 1)) * r := by ring
        _ ≤ (b * q + q) * r := by gcongr; exact c_lt
        _ = (b + 1) * q * r := by ring
        _ ≤ p * q * r := by gcongr; exact b_lt
    rw [first, second]
    omega

/-- The digits that do not fit the significand make up less than a hundredth of the number. -/
theorem significand_near (wholeDigits : ∀ digit ∈ whole, digit.isDigit = true)
    (fractionDigits : ∀ digit ∈ fraction, digit.isDigit = true) :
    let first := takeDigits 0 whole
    let both := takeDigits first.1 fraction
    both.1 < 2 ^ 64 ∧ ∃ scale : Nat,
      (scale : Int) = (whole.length - first.2 : Nat) - both.2 + fraction.length ∧
      100 * (both.1 * 10 ^ scale) ≤ 101 * digitsValue (whole ++ fraction) ∧
      100 * digitsValue (whole ++ fraction) ≤ 101 * (both.1 * 10 ^ scale) := by
  obtain ⟨whole, behind, value, rfl, taken, small, is, large⟩ :=
    exists_takeDigits whole 0 wholeDigits (by decide)
  obtain ⟨fraction, behind', value', rfl, taken', small', is', large'⟩ :=
    exists_takeDigits fraction value fractionDigits small
  rw [Nat.zero_mul, Nat.zero_add] at is
  have power_ne_one : ∀ {digits : List Char}, 10 ^ digits.length ≠ 1 → digits ≠ [] := by
    rintro digits notOne rfl
    exact notOne rfl
  have left := digitsValue_lt fun digit member =>
    wholeDigits digit (List.mem_append_right whole member)
  have kept := digitsValue_lt fun digit member =>
    fractionDigits digit (List.mem_append_left behind' member)
  have left' := digitsValue_lt fun digit member =>
    fractionDigits digit (List.mem_append_right fraction member)
  have near := digits_near left kept left' (fun notOne => large (power_ne_one notOne))
    (fun notOne => is' ▸ large' (power_ne_one notOne))
  intro first both
  simp only [first, both, taken, taken']
  refine ⟨small', behind.length + behind'.length, ?_, ?_⟩
  · simp only [List.length_append]
    omega
  · rw [digitsValue_append, digitsValue_append whole, digitsValue_append fraction, ← is, is',
      List.length_append, Nat.pow_add, Nat.pow_add]
    exact near

end Digits

/-! ### The double of a number -/

/-- The whole part and the fraction are digits. -/
structure NumberText.HasDigits (number : NumberText) : Prop where
  whole : ∀ digit ∈ number.whole, digit.isDigit = true
  fraction : ∀ digit ∈ number.fraction.getD [], digit.isDigit = true

theorem SaysNumber.hasDigits {text rest : List Char} {number : NumberText}
    (parts : SaysNumber text number rest) : number.HasDigits := by
  obtain ⟨-, isDigits, -, point, -⟩ := parts
  refine ⟨isDigits.all, ?_⟩
  cases point with
  | absent => exact nofun
  | present isDigits => exact isDigits.all

section Doubles

variable {number : NumberText}

theorem NumberText.double?_eq_none_iff (number : NumberText) :
    let first := takeDigits 0 number.whole
    let both := takeDigits first.1 (number.fraction.getD [])
    number.double? = none ↔ scaleTen? (Decimal.toFloat false ⟨both.1, 0⟩)
      ((number.whole.length - first.2 : Nat) - both.2 + number.tens) = none := by
  obtain ⟨negative, whole, fraction, _ | ⟨_ | _, digits⟩⟩ := number <;>
    exact Option.map_eq_none_iff

/-- A double is scaled from a significand that is near to the number. -/
theorem exists_scaled (hasDigits : number.HasDigits) :
    ∃ (significand : Nat) (exponent : Int), significand < 2 ^ 64 ∧
      (number.double? = none ↔
        scaleTen? (Decimal.toFloat false ⟨significand, 0⟩) exponent = none) ∧
      (significand * 10 ^ exponent : ℚ) ≤ 101 / 100 * number.magnitude ∧
      number.magnitude ≤ 101 / 100 * (significand * 10 ^ exponent : ℚ) := by
  obtain ⟨small, scale, scaled, lower, upper⟩ :=
    significand_near hasDigits.whole hasDigits.fraction
  refine ⟨_, scale + (number.tens - (number.fraction.getD []).length), small, ?_, ?_⟩
  · have exponent : (scale : Int) + (number.tens - (number.fraction.getD []).length) =
        ((number.whole.length - (takeDigits 0 number.whole).2 : Nat) : Int) -
          (takeDigits (takeDigits 0 number.whole).1 (number.fraction.getD [])).2 + number.tens := by
      omega
    rw [exponent]
    exact number.double?_eq_none_iff
  · have power_pos : (0 : ℚ) < 10 ^ (number.tens - (number.fraction.getD []).length) := by
      positivity
    rw [zpow_add₀ (by norm_num), zpow_natCast, NumberText.magnitude, ← mul_assoc]
    generalize (10 : ℚ) ^ (number.tens - (number.fraction.getD []).length) = power at power_pos
    generalize (takeDigits (takeDigits 0 number.whole).1 (number.fraction.getD [])).1 = significand
      at lower upper ⊢
    generalize digitsValue (number.whole ++ number.fraction.getD []) = digits at lower upper ⊢
    have lower : (100 * (significand * 10 ^ scale) : ℚ) ≤ 101 * digits := by exact_mod_cast lower
    have upper : (100 * digits : ℚ) ≤ 101 * (significand * 10 ^ scale) := by exact_mod_cast upper
    constructor
    · calc (significand * 10 ^ scale * power : ℚ)
          = 100 * (significand * 10 ^ scale) / 100 * power := by ring
        _ ≤ 101 * digits / 100 * power := by gcongr
        _ = 101 / 100 * (digits * power) := by ring
    · calc (digits * power : ℚ) = 100 * digits / 100 * power := by ring
        _ ≤ 101 * (significand * 10 ^ scale) / 100 * power := by gcongr
        _ = 101 / 100 * (significand * 10 ^ scale * power) := by ring

/-- Only scaling up can go out of range. -/
theorem scaleTen?_eq_none_iff {value : Float} (notZero : (value == 0) = false) {exponent : Int} :
    scaleTen? value exponent = none ↔ ∃ n : Nat, exponent = n ∧
      ¬ (n ≤ 308 ∧ (value * Decimal.toFloat false ⟨1, n⟩).isFinite = true) := by
  unfold scaleTen?
  simp only [notZero, Bool.false_eq_true, if_false]
  cases exponent with
  | ofNat n =>
    simp only [Bool.and_eq_true, decide_eq_true_eq, ite_eq_right_iff, reduceCtorEq, imp_false,
      Int.ofNat_eq_natCast, Int.natCast_inj, exists_eq_left']
  | negSucc n =>
    refine iff_of_false ?_ ?_
    · dsimp only
      split
      · nofun
      · split <;> nofun
    · rintro ⟨m, same, -⟩
      cases same

theorem isNear_significand {significand : Nat} (positive : 0 < significand)
    (small : significand < 2 ^ 64) :
    Binary64.IsNear (Decimal.toFloat false ⟨significand, 0⟩) significand := by
  have near := Decimal.isNear_toFloat positive (Nat.zero_le 400) <|
    calc significand * 10 ^ 0 = significand := Nat.mul_one _
      _ < 2 ^ 64 := small
      _ ≤ 3 * 2 ^ 1022 := by decide +kernel
  rwa [Nat.pow_zero, Nat.mul_one] at near

theorem isNear_power {n : Nat} (moderate : n ≤ 308) :
    Binary64.IsNear (Decimal.toFloat false ⟨1, n⟩) (10 ^ n) := by
  have near := Decimal.isNear_toFloat Nat.one_pos (by omega : n ≤ 400) <|
    calc 1 * 10 ^ n = 10 ^ n := Nat.one_mul _
      _ ≤ 10 ^ 308 := Nat.pow_le_pow_right (by decide) moderate
      _ < 3 * 2 ^ 1022 := by decide +kernel
  rwa [Nat.one_mul] at near

/-- Whether a significand can be scaled up, by the number that it is scaled to. -/
theorem scaled_bounds {significand n : Nat} (positive : 0 < significand)
    (small : significand < 2 ^ 64) (moderate : n ≤ 308) :
    let scaled := Decimal.toFloat false ⟨significand, 0⟩ * Decimal.toFloat false ⟨1, n⟩
    ((significand * 10 ^ n : ℚ) ≤ 5 * 2 ^ 50 * 2 ^ (971 : Int) → scaled.isFinite = true) ∧
      (17 * 2 ^ 49 * 2 ^ (971 : Int) ≤ (significand * 10 ^ n : ℚ) → scaled.isFinite = false) := by
  have bounds := Binary64.isFinite_mul (isNear_significand positive small) (isNear_power moderate)
  rw [Nat.cast_pow, Nat.cast_ofNat] at bounds
  exact bounds

/-- The limit of doubles lies between `10 ^ 308` and twice as much, with room to either side. -/
theorem limit_bounds : (101 / 100 * 10 ^ 308 : ℚ) ≤ 5 * 2 ^ 50 * 2 ^ (971 : Int) ∧
    (101 / 100 * (17 * 2 ^ 49 * 2 ^ (971 : Int)) : ℚ) < 2 * 10 ^ 308 := by
  have first : 101 * 10 ^ 308 ≤ 500 * 2 ^ 50 * 2 ^ 971 := by decide +kernel
  have second : 101 * (17 * 2 ^ 49 * 2 ^ 971) < 200 * 10 ^ 308 := by decide +kernel
  have first : (101 * 10 ^ 308 : ℚ) ≤ 500 * 2 ^ 50 * 2 ^ 971 := by exact_mod_cast first
  have second : (101 * (17 * 2 ^ 49 * 2 ^ 971) : ℚ) < 200 * 10 ^ 308 := by exact_mod_cast second
  have power : (2 : ℚ) ^ (971 : Int) = 2 ^ 971 := zpow_natCast 2 971
  rw [power]
  generalize (10 : ℚ) ^ 308 = ten at first second ⊢
  generalize (2 : ℚ) ^ 971 = two at first second ⊢
  constructor <;> linarith

/-- **How large a number may be.** No number below `10 ^ 308` is too large for a double, and from
twice as much on every number is. -/
theorem magnitude_bounds (hasDigits : number.HasDigits) :
    (number.double? = none → 10 ^ 308 ≤ number.magnitude) ∧
      (number.double? ≠ none → number.magnitude < 2 * 10 ^ 308) := by
  obtain ⟨significand, exponent, small, none_iff, lower, upper⟩ := exists_scaled hasDigits
  obtain ⟨limit_lower, limit_upper⟩ := limit_bounds
  rw [ne_eq, none_iff]
  rcases Nat.eq_zero_or_pos significand with rfl | positive
  · have scaled : scaleTen? (Decimal.toFloat false ⟨0, 0⟩) exponent ≠ none := by
      have zero : (Decimal.toFloat false ⟨0, 0⟩ == 0) = true := by decide
      simp [scaleTen?, zero]
    refine ⟨fun none => absurd none scaled, fun _ => ?_⟩
    rw [Nat.cast_zero, zero_mul, mul_zero] at upper
    exact lt_of_le_of_lt upper (by positivity)
  · have notZero := Binary64.beq_zero_of_isNear (isNear_significand positive small)
    rw [scaleTen?_eq_none_iff notZero]
    constructor
    · rintro ⟨n, rfl, fails⟩
      by_contra below
      refine fails ?_
      rw [zpow_natCast] at lower
      have most : (significand * 10 ^ n : ℚ) < 101 / 100 * 10 ^ 308 :=
        lt_of_le_of_lt lower (by gcongr; exact not_le.mp below)
      have moderate : n ≤ 308 := by
        by_contra beyond
        have one : (1 : ℚ) ≤ significand := by exact_mod_cast positive
        have tens : (10 : ℚ) ^ (308 + 1) ≤ 1 * 10 ^ n := by
          rw [one_mul]
          exact pow_le_pow_right₀ (by norm_num) (by omega)
        have power : (0 : ℚ) < 10 ^ 308 := by positivity
        have least := le_trans tens (mul_le_mul_of_nonneg_right one (by positivity))
        rw [pow_succ] at least
        generalize (10 : ℚ) ^ 308 = ten at least most power
        linarith only [least, most, power]
      exact ⟨moderate, (scaled_bounds positive small moderate).1 (le_trans most.le limit_lower)⟩
    · intro scaled
      cases exponent with
      | ofNat n =>
        obtain ⟨moderate, finite⟩ : n ≤ 308 ∧ (Decimal.toFloat false ⟨significand, 0⟩ *
            Decimal.toFloat false ⟨1, n⟩).isFinite = true :=
          by_contra fun fails => scaled ⟨n, rfl, fails⟩
        have within : (significand * 10 ^ n : ℚ) < 17 * 2 ^ 49 * 2 ^ (971 : Int) := by
          by_contra beyond
          rw [(scaled_bounds positive small moderate).2 (not_lt.mp beyond)] at finite
          cases finite
        rw [Int.ofNat_eq_natCast, zpow_natCast] at upper
        refine lt_of_le_of_lt upper (lt_trans ?_ limit_upper)
        gcongr
      | negSucc n =>
        have shrunk : (significand * 10 ^ (Int.negSucc n) : ℚ) ≤ 2 ^ 64 * 1 := by
          gcongr
          · exact_mod_cast small.le
          · rw [zpow_negSucc]
            exact inv_le_one_of_one_le₀ (one_le_pow₀ (by norm_num))
        calc number.magnitude ≤ 101 / 100 * (2 ^ 64 * 1) :=
              le_trans upper (mul_le_mul_of_nonneg_left shrunk (by norm_num))
          _ < 2 * 10 ^ 20 := by norm_num
          _ ≤ 2 * 10 ^ 308 := by gcongr <;> norm_num

theorem denotes_iff {written : WrittenJson} (hasDigits : number.HasDigits) :
    number.Denotes written ↔ number.value = written := by
  obtain ⟨large, inRange⟩ := magnitude_bounds hasDigits
  constructor
  · intro denotes
    cases denotes with
    | whole isWhole => exact value_of_isWhole isWhole
    | double notWhole scaled _ =>
      rw [value_of_not_isWhole notWhole, scaled]
      rfl
    | tooLarge notWhole unscaled _ =>
      rw [value_of_not_isWhole notWhole, unscaled]
      rfl
  · rintro rfl
    by_cases isWhole : number.IsWhole
    · rw [value_of_isWhole isWhole]
      exact .whole isWhole
    · rw [value_of_not_isWhole isWhole]
      cases is : number.double? with
      | none => exact .tooLarge isWhole is (large is)
      | some value => exact .double isWhole is (inRange (is ▸ Option.some_ne_none value))

end Doubles

end DeviceMapping.Json
