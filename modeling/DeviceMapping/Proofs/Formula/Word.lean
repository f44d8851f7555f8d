/-
**Words that spell whole numbers, and words that never do.**

A word grows as it is cut out of a text. `NeverWhole` says that it will not be a whole number
however it goes on, and the lemmas below it say which words are such. A text that ends with the mark
of an exponent is no number at all (`readFloat?_mark`).
-/

import DeviceMapping.Formula.Token
import DeviceMapping.Proofs.Decimal.ReadBack
import DeviceMapping.Proofs.Formula.Grammar

namespace DeviceMapping.Formula.Token

open Literal (AllDigits IsLiteral IsMantissa)

/-! ### Whole numbers -/

/-- The character is a hexadecimal digit. -/
def isHexDigit (c : Char) : Bool :=
  (hexValue? c).isSome

theorem isHexDigit_of_foldlM {digits : List Char} {start value : Nat}
    (reads : digits.foldlM (fun value c => (digitValue? 16 c).map (value * 16 + ·)) start =
      some value) : ∀ c ∈ digits, isHexDigit c = true := by
  induction digits generalizing start with
  | nil => nofun
  | cons c rest ih =>
    rw [List.foldlM_cons] at reads
    obtain ⟨next, first, later⟩ := Option.bind_eq_some_iff.mp reads
    obtain ⟨digit, isDigit, -⟩ := Option.map_eq_some_iff.mp first
    intro other member
    rcases List.mem_cons.mp member with rfl | inRest
    · exact Option.isSome_iff_exists.mpr ⟨digit, (Option.filter_eq_some_iff.mp isDigit).1⟩
    · exact ih later other inRest

/-- A whole number is a run of digits, or `0x` and hexadecimal digits. -/
theorem cases_of_wholeNumber? {word : List Char} {value : Int}
    (spells : wholeNumber? word = some value) :
    (AllDigits word ∧ digitsValue word < 0x8000000000000000) ∨
      ∃ digits, word = '0' :: 'x' :: digits ∧ ∀ c ∈ digits, isHexDigit c = true := by
  obtain ⟨n, reads, fits⟩ := Option.bind_eq_some_iff.mp spells
  split at reads
  · rename_i digits
    refine .inr ⟨digits, rfl, ?_⟩
    unfold readBase? at reads
    split at reads
    · cases reads
    · exact isHexDigit_of_foldlM reads
  · unfold readDigits? at reads
    split at reads
    · rename_i digits
      cases reads
      refine .inl ⟨List.all_eq_true.mp digits.2, ?_⟩
      by_contra large
      rw [if_neg large] at fits
      cases fits
    · cases reads

/-- The word is no whole number, however it goes on. -/
def NeverWhole (word : List Char) : Prop :=
  ∀ more, wholeNumber? (word ++ more) = none

theorem NeverWhole.append {word : List Char} (never : NeverWhole word) (more : List Char) :
    NeverWhole (word ++ more) := by
  intro further
  rw [List.append_assoc]
  exact never (more ++ further)

theorem neverWhole_iff {word : List Char} : NeverWhole word ↔
    ∀ more value, wholeNumber? (word ++ more) ≠ some value := by
  simp only [NeverWhole, Option.eq_none_iff_forall_ne_some]

/-- A word that begins with anything but a digit. -/
theorem neverWhole_of_not_digit {c : Char} (other : c.isDigit = false) (rest : List Char) :
    NeverWhole (c :: rest) := by
  rw [neverWhole_iff]
  intro more value spells
  rcases cases_of_wholeNumber? spells with ⟨all, -⟩ | ⟨digits, same, -⟩
  · have digit := all c List.mem_cons_self
    rw [other] at digit
    cases digit
  · rw [(List.cons.inj same).1] at other
    cases other

/-- A word with a point in it. -/
theorem neverWhole_of_point {word : List Char} (point : '.' ∈ word) : NeverWhole word := by
  rw [neverWhole_iff]
  intro more value spells
  have inside : '.' ∈ word ++ more := List.mem_append_left _ point
  rcases cases_of_wholeNumber? spells with ⟨all, -⟩ | ⟨digits, same, hex⟩
  · cases all '.' inside
  · rw [same] at inside
    simp only [List.mem_cons] at inside
    rcases inside with zero | x | digit
    · cases zero
    · cases x
    · cases hex '.' digit

/-- Digits and a mark behind them, which is not the one of hexadecimal numbers. -/
theorem neverWhole_of_mark {digits : List Char} (all : AllDigits digits) (some : digits ≠ [])
    {mark : Char} (other : mark.isDigit = false) (noHex : mark ≠ 'x') (rest : List Char) :
    NeverWhole (digits ++ mark :: rest) := by
  rw [neverWhole_iff]
  intro more value spells
  rcases cases_of_wholeNumber? spells with ⟨all', -⟩ | ⟨later, same, -⟩
  · have digit := all' mark (by simp)
    rw [other] at digit
    cases digit
  · cases digits with
    | nil => exact some rfl
    | cons first digits =>
      have second := (List.cons.inj same).2
      cases digits with
      | nil => exact noHex (List.cons.inj second).1
      | cons next digits =>
        have digit := all next (by simp)
        rw [(List.cons.inj second).1] at digit
        cases digit

/-- Digits of a number that is too large. -/
theorem neverWhole_of_large {digits : List Char} (all : AllDigits digits)
    (large : 0x8000000000000000 ≤ digitsValue digits) : NeverWhole digits := by
  rw [neverWhole_iff]
  intro more value spells
  rcases cases_of_wholeNumber? spells with ⟨-, small⟩ | ⟨later, same, -⟩
  · have grows : digitsValue digits ≤ digitsValue digits * 10 ^ more.length :=
      Nat.le_mul_of_pos_right _ (Nat.pow_pos (by decide))
    rw [digitsValue_append] at small
    omega
  · cases digits with
    | nil => simp [digitsValue] at large
    | cons first digits =>
      obtain ⟨rfl, second⟩ := List.cons.inj same
      cases digits with
      | nil => simp [digitsValue] at large
      | cons next digits =>
        have digit := all next (by simp)
        rw [(List.cons.inj second).1] at digit
        cases digit

/-- The number that a text spells is too large for a double. -/
def IsInfinite (text : List Char) : Prop :=
  ∃ value, readDecimal? text = some value ∧ value.bits = Binary64.infinityBits

/-- So are the digits of a number that is no finite double. -/
theorem neverWhole_of_isInfinite {digits : List Char} (all : AllDigits digits) (some : digits ≠ [])
    (infinite : IsInfinite digits) : NeverWhole digits := by
  refine neverWhole_of_large all ?_
  obtain ⟨value, reads, bits⟩ := infinite
  have front : digits.takeWhile Char.isDigit = digits := List.takeWhile_eq_self_iff.mpr all
  have back : digits.dropWhile Char.isDigit = [] := List.dropWhile_eq_nil_iff.mpr all
  have is : readDecimal? digits = Option.some ⟨digitsValue digits, 0⟩ := by
    simp [readDecimal?, front, back, some, readExponent?]
  rw [is] at reads
  cases reads
  by_contra small
  have finite := Decimal.bits_lt_of_small (Nat.lt_of_not_le small)
  omega

/-! ### Numbers of a mark too many -/

theorem readSpecial?_mark (negative : Bool) (text : List Char) {mark : Char}
    (isMark : mark = 'e' ∨ mark = 'E') : readSpecial? negative (text ++ [mark]) = none := by
  have lower : mark.toLower = 'e' := by
    rcases isMark with rfl | rfl
    · rfl
    · rfl
  have other : ∀ word : List Char, word.getLast? ≠ some 'e' →
      (String.ofList ((text ++ [mark]).map Char.toLower) == String.ofList word) = false := by
    intro word ends
    rw [beq_eq_false_iff_ne, ne_eq, String.ofList_inj, List.map_append]
    rintro rfl
    simp [lower] at ends
  have inf := other ['i', 'n', 'f'] (by decide)
  have infinity := other "infinity".toList (by decide)
  have nan := other ['n', 'a', 'n'] (by decide)
  rw [readSpecial?, show "inf" = String.ofList ['i', 'n', 'f'] from rfl, inf,
    show "infinity" = String.ofList "infinity".toList from rfl, infinity,
    show "nan" = String.ofList ['n', 'a', 'n'] from rfl, nan]
  rfl

/-- A text that ends with the mark of an exponent is no number. -/
theorem readFloat?_mark (text : List Char) {mark : Char} (isMark : mark = 'e' ∨ mark = 'E') :
    readFloat? (text ++ [mark]) = none := by
  obtain ⟨rest, unsigned⟩ : ∃ rest, (splitSign (text ++ [mark])).2 = rest ++ [mark] := by
    cases text with
    | nil =>
      refine ⟨[], ?_⟩
      rcases isMark with rfl | rfl
      · rfl
      · rfl
    | cons c later =>
      rw [List.cons_append]
      unfold splitSign
      split
      · rename_i same
        exact ⟨later, (List.cons.inj same).2.symm⟩
      · rename_i same
        exact ⟨later, (List.cons.inj same).2.symm⟩
      · exact ⟨c :: later, rfl⟩
  have decimal : readDecimal? (rest ++ [mark]) = none := by
    rw [Option.eq_none_iff_forall_ne_some]
    intro value reads
    have ends := (Literal.isLiteral_of_readDecimal? reads).last
    rcases isMark with rfl | rfl
    · rcases ends with digit | point
      · cases digit
      · cases point
    · rcases ends with digit | point
      · cases digit
      · cases point
  simp only [readFloat?, unsigned, readSpecial?_mark _ rest isMark, decimal, Option.map_none]

/-- Hexadecimal digits do not make a decimal number. -/
theorem readFloat?_hex (rest : List Char) : readFloat? ('0' :: 'x' :: rest) = none := by
  have begins : '0'.isDigit = true ∨ '0' = '.' := .inl rfl
  have decimal : readDecimal? ('0' :: 'x' :: rest) = none := by
    simp [readDecimal?, readExponent?]
  have unsigned : splitSign ('0' :: 'x' :: rest) = (false, '0' :: 'x' :: rest) := rfl
  simp only [readFloat?, unsigned, Literal.readSpecial?_of_begins begins, decimal, Option.map_none]

end DeviceMapping.Formula.Token
