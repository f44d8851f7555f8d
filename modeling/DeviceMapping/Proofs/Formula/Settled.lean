/-
**Texts that are their own normal forms.**

* `IsWritten`: the digits of a number, a point and digits. So every literal of finite value is
  written (`isWritten_normalText`), and what is written is its own normal form
  (`normalText_normalText`).
* `IsSettled`: every literal of a division is its own normal form and stands before nothing that it
  multiplies.
* `rendered_eq_spelled_iff`: a text is its own normal form exactly if its division is settled. What
  one literal has too much or too little can not be made up for by another one.
-/

import DeviceMapping.Proofs.Decimal.Whole
import DeviceMapping.Proofs.Formula.Longest
import DeviceMapping.Proofs.Formula.Scan

namespace DeviceMapping.Literal

open Formula.Token (IsInfinite isLiteral_normalText multiplies_digit separator
  continuesName_of_isDigit)

/-! ### What literals are written as -/

/-- The digits of a number, a point and at least one digit. -/
def IsWritten (text : List Char) : Prop :=
  ∃ n fraction, text = digitsOf n ++ '.' :: fraction ∧ fraction ≠ [] ∧ AllDigits fraction

theorem allDigits_digitsOf (n : Nat) : AllDigits (digitsOf n) :=
  fun _ member => isDigit_of_mem_digitsOf member

theorem isWritten_positional (decimal : Decimal) : IsWritten decimal.positional := by
  obtain ⟨digits, exponent⟩ := decimal
  cases exponent with
  | ofNat n =>
    exact ⟨_, ['0'], rfl, List.cons_ne_nil _ _, List.forall_mem_singleton.mpr rfl⟩
  | negSucc n =>
    refine ⟨_, _, rfl, List.append_ne_nil_of_right_ne_nil _ (digitsOf_ne_nil _), ?_⟩
    refine AllDigits.append (fun c zero => ?_) (allDigits_digitsOf _)
    rw [List.eq_of_mem_replicate zero]
    rfl

theorem IsWritten.isPlain {text : List Char} (written : IsWritten text) : IsPlain text := by
  obtain ⟨n, fraction, rfl, some, all⟩ := written
  exact ⟨digitsOf n, fraction, rfl, digitsOf_ne_nil n, some, (allDigits_digitsOf n).append all⟩

section Plain

variable {text : List Char} {c : Char}

theorem isLiteral_of_isPlain (plain : IsPlain text) : IsLiteral text := by
  obtain ⟨whole, fraction, rfl, some, -, digits⟩ := plain
  exact IsMantissa.isLiteral (.pointed digits (List.append_ne_nil_of_left_ne_nil some fraction))

theorem last_of_isPlain (plain : IsPlain text) :
    ∃ start c, text = start ++ [c] ∧ c.isDigit = true := by
  obtain ⟨whole, fraction, rfl, -, some, digits⟩ := plain
  obtain ⟨start, c, rfl, digit⟩ := (AllDigits.of_append digits).2.last some
  exact ⟨whole ++ '.' :: start, c, by simp, digit⟩

theorem point_mem_of_isPlain (plain : IsPlain text) : '.' ∈ text := by
  obtain ⟨whole, fraction, rfl, -⟩ := plain
  simp

/-- Plain decimal text goes on with a digit, for it has got its point. -/
theorem isDigit_of_isPlain (plain : IsPlain text) (longer : IsLiteral (text ++ [c])) :
    c.isDigit = true := by
  rcases longer.last with digit | rfl
  · exact digit
  · have points := longer.count_point
    have before := List.count_pos_iff.mpr (point_mem_of_isPlain plain)
    rw [List.count_append, List.count_singleton_self] at points
    omega

theorem endsName_of_isPlain (plain : IsPlain text) (before : List Char) :
    endsName (before ++ text) = true := by
  obtain ⟨start, c, rfl, digit⟩ := last_of_isPlain plain
  rw [← List.append_assoc, endsName_concat, continuesName_of_isDigit digit]

end Plain

section Written

variable {text literal : List Char}

theorem IsWritten.head (written : IsWritten text) :
    ∃ c later, text = c :: later ∧ c.isDigit = true := by
  obtain ⟨n, fraction, rfl, -, -⟩ := written
  obtain ⟨c, rest, same⟩ := List.exists_cons_of_ne_nil (digitsOf_ne_nil n)
  refine ⟨c, rest ++ '.' :: fraction, by rw [same]; rfl, ?_⟩
  exact allDigits_digitsOf n c (by simp [same])

theorem normalText_of_isInfinite (infinite : IsInfinite literal) : normalText literal = literal := by
  obtain ⟨value, reads, bits⟩ := infinite
  simp [normalText, reads, bits]

theorem readDecimal?_of_not_isInfinite (isLiteral : IsLiteral literal)
    (finite : ¬ IsInfinite literal) : ∃ value, readDecimal? literal = some value ∧
      value.bits < Binary64.infinityBits ∧
        normalText literal = (Binary64.shortest value.bits).positional := by
  obtain ⟨value, reads⟩ := exists_readDecimal? isLiteral
  have small : value.bits < Binary64.infinityBits :=
    lt_of_le_of_ne (bits_le_infinityBits value) fun large => finite ⟨value, reads, large⟩
  exact ⟨value, reads, small, by simp only [normalText, reads, if_pos small]⟩

theorem isWritten_normalText (isLiteral : IsLiteral literal) (finite : ¬ IsInfinite literal) :
    IsWritten (normalText literal) := by
  obtain ⟨value, -, -, written⟩ := readDecimal?_of_not_isInfinite isLiteral finite
  exact written ▸ isWritten_positional _

/-- The normal form of a literal is its own normal form. -/
theorem normalText_normalText (isLiteral : IsLiteral literal) :
    normalText (normalText literal) = normalText literal := by
  by_cases infinite : IsInfinite literal
  · rw [normalText_of_isInfinite infinite, normalText_of_isInfinite infinite]
  · obtain ⟨value, reads, small, written⟩ := readDecimal?_of_not_isInfinite isLiteral infinite
    have same := Binary64.bits_shortest small
    obtain ⟨-, read, reads', bits⟩ :=
      readDecimal?_positional (Binary64.shortest value.bits) (same.symm ▸ small)
    rw [same] at bits
    rw [written]
    simp only [normalText, reads', bits, if_pos small]

/-- Before a point at its end a literal has digits only. -/
theorem IsLiteral.of_point_last {digits : List Char} (isLiteral : IsLiteral (digits ++ ['.'])) :
    AllDigits digits ∧ digits ≠ [] := by
  have noDigits : ∀ front last : List Char, AllDigits last → last ≠ [] →
      digits ++ ['.'] ≠ front ++ last := by
    rintro front last all some same
    obtain ⟨start, c, rfl, digit⟩ := all.last some
    rw [← List.append_assoc] at same
    obtain ⟨-, point⟩ := List.append_inj' same rfl
    cases point
    cases digit
  generalize same : digits ++ ['.'] = text at isLiteral
  obtain @⟨mantissa, exponent, isMantissa, isExponent⟩ := isLiteral
  cases isExponent with
  | @present mark sign last isMark isSign all some =>
    exact absurd (by simp [same]) (noDigits (mantissa ++ mark :: sign) last all some)
  | absent =>
    rw [List.append_nil] at same
    cases isMantissa with
    | whole all some => exact absurd same (noDigits [] _ all some)
    | @pointed whole fraction all some =>
      by_cases none : fraction = []
      · subst none
        obtain ⟨rfl, -⟩ := List.append_inj' same rfl
        rw [List.append_nil] at all some
        exact ⟨all, some⟩
      · exact absurd (by simp [same]) (noDigits (whole ++ ['.']) fraction all.of_append.2 none)

/-- A literal that ends with its point is a natural number. -/
theorem normalText_of_point_last {digits : List Char} (isLiteral : IsLiteral (digits ++ ['.']))
    (finite : ¬ IsInfinite (digits ++ ['.'])) :
    ∃ n, normalText (digits ++ ['.']) = digitsOf n ++ ['.', '0'] := by
  obtain ⟨all, some⟩ := isLiteral.of_point_last
  obtain ⟨value, reads, small, written⟩ := readDecimal?_of_not_isInfinite isLiteral finite
  have number : readDecimal? (digits ++ ['.']) = Option.some ⟨digitsValue digits, 0⟩ := by
    have digits_nil : ∀ c ∈ digits ++ [], c.isDigit = true := by
      rw [List.append_nil]
      exact all
    have pointed := readDecimal?_pointed some digits_nil
    rwa [List.append_nil] at pointed
  rw [reads] at number
  cases number
  rw [written]
  exact positional_whole _ small

/-- A literal that no name goes on behind ends with its point. -/
theorem IsLiteral.point_last {before : List Char} (isLiteral : IsLiteral literal)
    (free : endsName (before ++ literal) = false) : ∃ start, literal = start ++ ['.'] := by
  obtain ⟨start, last, rfl, digit | rfl⟩ := last_of_isLiteral isLiteral
  · rw [← List.append_assoc, endsName_concat, continuesName_of_isDigit digit] at free
    cases free
  · exact ⟨start, rfl⟩

end Written

/-! ### What multiplies and what does not -/

section Multiplies

variable {literal : List Char} {c : Char}

theorem multiplies_of_begins (begins : c.isDigit = true ∨ c = '.') (rest : List Char) :
    multiplies (c :: rest) = false := by
  rcases begins with digit | rfl
  · exact multiplies_digit digit
  · have alone : multiplies ['.'] = false := by decide
    exact alone

theorem multiplies_of_isLiteral (isLiteral : IsLiteral literal) (rest : List Char) :
    multiplies (literal ++ rest) = false := by
  obtain ⟨c, later, rfl, begins⟩ := head_of_isLiteral isLiteral
  exact multiplies_of_begins begins _

theorem multiplies_of_isMark (isMark : IsMark c) (rest : List Char) :
    multiplies (c :: rest) = true := by
  have small : multiplies ['e'] = true := by decide
  have capital : multiplies ['E'] = true := by decide
  rcases isMark with rfl | rfl
  · exact small
  · exact capital

theorem multiplies_of_blank (rest : List Char) : multiplies (' ' :: rest) = false := by
  have alone : multiplies [' '] = false := by decide
  exact alone

theorem separator_of_multiplies {rest : List Piece} (multiplied : multiplies (spelled rest) = true) :
    separator rest = [' ', '*', ' '] :=
  if_pos multiplied

theorem separator_of_not_multiplies {rest : List Piece} (alone : multiplies (spelled rest) = false) :
    separator rest = [] := by
  rw [separator, alone]
  rfl

/-- What a piece is written as before the pieces behind it. -/
def Piece.written (rest : List Piece) : Piece → List Char
  | .literal text => normalText text ++ separator rest
  | .other c => [c]

theorem rendered_cons (piece : Piece) (rest : List Piece) :
    rendered (piece :: rest) = piece.written rest ++ rendered rest := by
  cases piece with
  | literal text => rfl
  | other c => rfl

end Multiplies

/-! ### Settled divisions -/

/-- Every literal is its own normal form and stands before nothing that it multiplies. -/
def IsSettled (pieces : List Piece) : Prop :=
  ∀ front literal back, pieces = front ++ .literal literal :: back →
    normalText literal = literal ∧ multiplies (spelled back) = false

section Settled

variable {before : List Char} {pieces rest : List Piece} {literal : List Char} {piece : Piece}

theorem isSettled_nil : IsSettled [] := by
  intro front literal back same
  simp at same

theorem IsSettled.of_append (front : List Piece) (settled : IsSettled (front ++ rest)) :
    IsSettled rest := by
  rintro front' literal back rfl
  exact settled (front ++ front') literal back (by simp)

theorem isSettled_cons_iff : IsSettled (piece :: rest) ↔
    (∀ literal, piece = .literal literal →
      normalText literal = literal ∧ multiplies (spelled rest) = false) ∧ IsSettled rest := by
  constructor
  · intro settled
    refine ⟨?_, IsSettled.of_append [piece] settled⟩
    rintro literal rfl
    exact settled [] literal rest rfl
  · rintro ⟨first, later⟩ front literal back same
    cases front with
    | nil =>
      cases same
      exact first literal rfl
    | cons other front =>
      cases same
      exact later front literal back rfl

theorem rendered_of_isSettled (settled : IsSettled pieces) : rendered pieces = spelled pieces := by
  induction pieces with
  | nil => rfl
  | cons piece rest ih =>
    obtain ⟨first, later⟩ := isSettled_cons_iff.mp settled
    rw [rendered_cons, spelled_cons, ih later]
    cases piece with
    | literal text =>
      obtain ⟨normal, alone⟩ := first text rfl
      rw [Piece.written, normal, separator_of_not_multiplies alone, List.append_nil]
      rfl
    | other c => rfl

/-- What is written behind a literal never begins with the end of that literal. -/
theorem behind_ne_extra (division : IsDivision before (spelled (.literal literal :: rest))
    (.literal literal :: rest)) {c : Char} {more : List Char}
    (parts : literal = normalText literal ++ c :: more) :
    separator rest ++ rendered rest ≠ c :: (more ++ spelled rest) := by
  intro behind
  obtain ⟨-, ⟨-, longest⟩, later⟩ := isDivision_cons_iff.mp division
  have isLiteral := longest.isLiteral
  have finite : ¬ IsInfinite literal := fun infinite => by
    rw [normalText_of_isInfinite infinite] at parts
    simp at parts
  have plain := (isWritten_normalText isLiteral finite).isPlain
  have longer : IsLiteral (normalText literal ++ c :: more) := parts ▸ isLiteral
  have next := ((isLiteral_of_isPlain plain).concat_or_mark longer).imp_left
    (isDigit_of_isPlain plain)
  cases alone : multiplies (spelled rest) with
  | true =>
    rw [separator_of_multiplies alone] at behind
    obtain ⟨rfl, -⟩ := List.cons.inj behind
    rcases next with digit | isMark
    · cases digit
    · exact absurd isMark (by decide)
  | false =>
    rw [separator_of_not_multiplies alone, List.nil_append] at behind
    cases rest with
    | nil => cases behind
    | cons piece rest =>
      cases piece with
      | other d =>
        cases (List.cons.inj behind).1
        rcases next with digit | isMark
        · exact longest.stops (isLiteral.concat_digit digit)
        · rw [spelled_cons] at alone
          cases (multiplies_of_isMark isMark (spelled rest)).symm.trans alone
      | literal second =>
        -- a literal ends with its point before another one, and it had a point before its end
        obtain ⟨-, ⟨free, -⟩, -⟩ := isDivision_cons_iff.mp later
        obtain ⟨start, last⟩ := isLiteral.point_last free
        have point : '.' ∈ c :: more := by
          refine List.mem_of_getLast? ?_
          rw [← List.getLast?_append_of_ne_nil (normalText literal) (List.cons_ne_nil c more),
            ← parts, last, List.getLast?_concat]
        have points := isLiteral.count_point
        rw [parts, List.count_append] at points
        have behindPoint := List.count_pos_iff.mpr point
        have beforePoint := List.count_pos_iff.mpr (point_mem_of_isPlain plain)
        omega

/-- A literal whose normal form and all written behind it make up the same text is its own normal
form. -/
theorem settled_of_same (division : IsDivision before (spelled (.literal literal :: rest))
    (.literal literal :: rest))
    (same : normalText literal ++ (separator rest ++ rendered rest) = literal ++ spelled rest) :
    normalText literal = literal ∧ multiplies (spelled rest) = false ∧
      rendered rest = spelled rest := by
  obtain ⟨-, ⟨-, longest⟩, -⟩ := isDivision_cons_iff.mp division
  have shorter := longest.longest _ _ same (isLiteral_normalText longest.isLiteral)
  obtain ⟨extra, parts, behind⟩ : ∃ extra, literal = normalText literal ++ extra ∧
      separator rest ++ rendered rest = extra ++ spelled rest := by
    rcases List.append_eq_append_iff.mp same with found | ⟨extra, parts, behind⟩
    · exact found
    · have none : extra = [] := by
        rw [parts, List.length_append] at shorter
        exact List.eq_nil_of_length_eq_zero (by omega)
      rw [none, List.append_nil] at parts
      rw [none, List.nil_append] at behind
      exact ⟨[], by rw [parts, List.append_nil], behind.symm⟩
  cases extra with
  | nil =>
    rw [List.append_nil] at parts
    rw [List.nil_append] at behind
    cases alone : multiplies (spelled rest) with
    | false =>
      rw [separator_of_not_multiplies alone] at behind
      exact ⟨parts.symm, rfl, behind⟩
    | true =>
      rw [separator_of_multiplies alone] at behind
      rw [← behind] at alone
      cases (multiplies_of_blank ('*' :: ' ' :: rendered rest)).symm.trans alone
  | cons c more => exact absurd behind (behind_ne_extra division parts)

/-- A text is its own normal form exactly if its division is settled. -/
theorem rendered_eq_spelled_iff (division : IsDivision before (spelled pieces) pieces) :
    rendered pieces = spelled pieces ↔ IsSettled pieces := by
  refine ⟨fun same => ?_, rendered_of_isSettled⟩
  induction pieces generalizing before with
  | nil => exact isSettled_nil
  | cons piece rest ih =>
    obtain ⟨-, -, later⟩ := isDivision_cons_iff.mp division
    rw [rendered_cons, spelled_cons] at same
    cases piece with
    | literal literal =>
      rw [Piece.written, Piece.text_literal, List.append_assoc] at same
      obtain ⟨normal, alone, behind⟩ := settled_of_same division same
      refine isSettled_cons_iff.mpr ⟨?_, ih later behind⟩
      intro _ same
      cases same
      exact ⟨normal, alone⟩
    | other c =>
      refine isSettled_cons_iff.mpr ⟨nofun, ih later ?_⟩
      exact (List.cons.inj same).2

end Settled

end DeviceMapping.Literal
