/-
**Where a longest literal ends.**

A literal goes on with a digit, a point or the mark of an exponent, and with nothing else. Apart from
exponents, which need a digit behind their mark, the next character alone decides whether a literal
is the longest one where it stands (`isLongest_of_stops`, `IsLongest.stops`). A literal has got one
point at most (`IsLiteral.count_point`), so plain decimal text goes on with a digit or not at all.
-/

import DeviceMapping.Proofs.Formula.Normal

namespace DeviceMapping.Literal

/-- The character is the mark of an exponent. -/
def IsMark (c : Char) : Prop :=
  c = 'e' ∨ c = 'E'

instance (c : Char) : Decidable (IsMark c) :=
  inferInstanceAs (Decidable (c = 'e' ∨ c = 'E'))

/-! ### One more character -/

section Beginning

variable {first second : List Char} {c : Char}

theorem AllDigits.concat (all : AllDigits first) (digit : c.isDigit = true) :
    AllDigits (first ++ [c]) :=
  all.append (List.forall_mem_singleton.mpr digit)

/-- A literal and a digit make a literal. -/
theorem IsLiteral.concat_digit (isLiteral : IsLiteral first) (digit : c.isDigit = true) :
    IsLiteral (first ++ [c]) := by
  obtain ⟨isMantissa, isExponent⟩ := isLiteral
  rename_i mantissa exponent
  cases isExponent with
  | absent =>
    rw [List.append_nil, ← List.append_nil (mantissa ++ [c])]
    refine .parts ?_ .absent
    cases isMantissa with
    | whole all => exact .whole (all.concat digit) (by simp)
    | @pointed whole fraction all some =>
      rw [List.append_assoc, List.cons_append]
      refine .pointed ?_ (by simp)
      rw [← List.append_assoc]
      exact all.concat digit
  | @present mark sign digits isMark isSign all some =>
    have longer := IsExponent.present isMark isSign (all.concat digit) (by simp)
    rw [show mantissa ++ mark :: (sign ++ digits) ++ [c] =
      mantissa ++ mark :: (sign ++ (digits ++ [c])) by simp]
    exact .parts isMantissa longer

/-- A mantissa begins with mantissas, except for its point. -/
theorem IsMantissa.of_append (isMantissa : IsMantissa (first ++ second)) (some : first ≠ [])
    (noPoint : first ≠ ['.']) : IsMantissa first := by
  generalize same : first ++ second = text at isMantissa
  cases isMantissa with
  | whole all =>
    subst same
    exact .whole all.of_append.1 some
  | @pointed whole fraction all =>
    rcases List.append_eq_append_iff.mp same with ⟨rest, rfl, -⟩ | ⟨rest, rfl, behind⟩
    · exact .whole all.of_append.1.of_append.1 some
    · cases rest with
      | nil =>
        rw [List.append_nil] at some ⊢
        exact .whole all.of_append.1 some
      | cons d rest =>
        obtain ⟨rfl, rfl⟩ := List.cons.inj behind
        replace all : AllDigits ((whole ++ rest) ++ second) := by
          rw [List.append_assoc]
          exact all
        refine .pointed all.of_append.1 fun none => noPoint ?_
        obtain ⟨rfl, rfl⟩ := List.append_eq_nil_iff.mp none
        rfl

/-- No literal ends with the mark of an exponent. -/
theorem IsLiteral.not_mark (isLiteral : IsLiteral (first ++ [c])) : ¬ IsMark c := by
  rintro (rfl | rfl)
  · rcases isLiteral.last with digit | point
    · cases digit
    · cases point
  · rcases isLiteral.last with digit | point
    · cases digit
    · cases point

/-- Where a literal goes on as a longer one, it does so with a character that makes a literal with it
or with the mark of an exponent. -/
theorem IsLiteral.concat_or_mark {more : List Char} (isLiteral : IsLiteral first)
    (longer : IsLiteral (first ++ c :: more)) : IsLiteral (first ++ [c]) ∨ IsMark c := by
  obtain ⟨d, later, begins, -⟩ := head_of_isLiteral isLiteral
  generalize same : first ++ c :: more = text at longer
  obtain @⟨mantissa, exponent, isMantissa, isExponent⟩ := longer
  rcases List.append_eq_append_iff.mp same with ⟨rest, rfl, behind⟩ | ⟨rest, rfl, behind⟩
  · cases rest with
    | nil =>
      cases isExponent with
      | absent => cases behind
      | present isMark =>
        cases behind
        exact .inr isMark
    | cons d rest =>
      obtain ⟨rfl, -⟩ := List.cons.inj behind
      rw [show first ++ c :: rest = (first ++ [c]) ++ rest by simp] at isMantissa
      exact .inl (isMantissa.of_append (by simp) (by simp [begins])).isLiteral
  · cases isExponent with
    | absent => simp at behind
    | @present mark sign digits isMark isSign all =>
      cases rest with
      | nil =>
        cases behind
        exact .inr isMark
      | cons _ rest =>
        obtain ⟨rfl, later⟩ := List.cons.inj behind
        -- behind the mark stand a sign and digits, and the literal goes on behind a digit
        cases rest with
        | nil => exact absurd isMark isLiteral.not_mark
        | cons s rest =>
          have digit : c ∈ digits := by
            rcases isSign with rfl | rfl | rfl
            · rw [show digits = s :: rest ++ c :: more from later]
              simp
            · rw [show digits = rest ++ c :: more from (List.cons.inj later).2]
              simp
            · rw [show digits = rest ++ c :: more from (List.cons.inj later).2]
              simp
          exact .inl (isLiteral.concat_digit (all c digit))

end Beginning

/-! ### The longest literal -/

section Longest

variable {literal rest : List Char} {c : Char}

/-- What goes on with a character that makes no literal is the longest literal. -/
theorem isLongest_of_stops (isLiteral : IsLiteral literal)
    (stops : ∀ c later, rest = c :: later → ¬ IsLiteral (literal ++ [c]) ∧ ¬ IsMark c) :
    IsLongest literal rest := by
  refine ⟨isLiteral, fun other after same isOther => ?_⟩
  by_contra more
  rcases List.append_eq_append_iff.mp same with ⟨behind, rfl, -⟩ | ⟨behind, rfl, follows⟩
  · simp at more
  · cases behind with
    | nil => simp at more
    | cons c behind =>
      obtain ⟨noLiteral, noMark⟩ := stops c (behind ++ after) follows
      rcases isLiteral.concat_or_mark isOther with longer | isMark
      · exact noLiteral longer
      · exact noMark isMark

/-- The longest literal makes none with the next character. -/
theorem IsLongest.stops (longest : IsLongest literal (c :: rest)) : ¬ IsLiteral (literal ++ [c]) := by
  intro longer
  have atMost := longest.longest (literal ++ [c]) rest (by simp) longer
  simp at atMost

end Longest

/-! ### Points -/

theorem AllDigits.count_point {digits : List Char} (all : AllDigits digits) :
    digits.count '.' = 0 := by
  rw [List.count_eq_zero]
  intro point
  cases all '.' point

/-- A literal has one point at most. -/
theorem IsLiteral.count_point {literal : List Char} (isLiteral : IsLiteral literal) :
    literal.count '.' ≤ 1 := by
  obtain ⟨isMantissa, isExponent⟩ := isLiteral
  rename_i mantissa exponent
  have behind : exponent.count '.' = 0 := by
    cases isExponent with
    | absent => rfl
    | present isMark isSign all =>
      have digits := all.count_point
      rcases isMark with rfl | rfl <;> rcases isSign with rfl | rfl | rfl <;> simpa using digits
  have before : mantissa.count '.' ≤ 1 := by
    cases isMantissa with
    | whole all => exact all.count_point ▸ Nat.zero_le 1
    | @pointed whole fraction all =>
      have points := all.count_point
      rw [List.count_append] at points ⊢
      rw [List.count_cons_self]
      omega
  rw [List.count_append]
  omega

end DeviceMapping.Literal
