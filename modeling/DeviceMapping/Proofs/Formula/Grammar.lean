/-
**The grammar of literals.**

What a literal is, said without saying how it is found (`IsLiteral`), and that `split` finds the
longest one: where a text begins with a literal (`startsLiteral_iff`), `split` takes it off and no
longer literal stands there (`split_isLongest`). Literals are what the reader of decimals takes
(`exists_readDecimal?`, `isLiteral_of_readDecimal?`).
-/

import DeviceMapping.Formula.Literal
import Mathlib.Data.List.TakeWhile

namespace DeviceMapping.Literal

/-! ### What a literal is -/

/-- Digits only, or nothing at all. -/
def AllDigits (text : List Char) : Prop :=
  ∀ c ∈ text, c.isDigit = true

/-- Digits with an optional point and further digits, or a point and at least one digit. -/
inductive IsMantissa : List Char → Prop
  | whole {digits : List Char} (all : AllDigits digits) (some : digits ≠ []) : IsMantissa digits
  | pointed {whole fraction : List Char} (all : AllDigits (whole ++ fraction))
      (some : whole ++ fraction ≠ []) : IsMantissa (whole ++ '.' :: fraction)

/-- Nothing, or the mark of an exponent with an optional sign and at least one digit. -/
inductive IsExponent : List Char → Prop
  | absent : IsExponent []
  | present {mark : Char} {sign digits : List Char} (isMark : mark = 'e' ∨ mark = 'E')
      (isSign : sign = [] ∨ sign = ['+'] ∨ sign = ['-']) (all : AllDigits digits)
      (some : digits ≠ []) : IsExponent (mark :: (sign ++ digits))

/-- A mantissa and an exponent. -/
inductive IsLiteral : List Char → Prop
  | parts {mantissa exponent : List Char} (isMantissa : IsMantissa mantissa)
      (isExponent : IsExponent exponent) : IsLiteral (mantissa ++ exponent)

/-- A literal that no longer one with the same beginning stands in the place of. -/
structure IsLongest (literal rest : List Char) : Prop where
  isLiteral : IsLiteral literal
  longest : ∀ other after, other ++ after = literal ++ rest → IsLiteral other →
    other.length ≤ literal.length

theorem AllDigits.of_append {first second : List Char} (all : AllDigits (first ++ second)) :
    AllDigits first ∧ AllDigits second :=
  ⟨fun c member => all c (List.mem_append_left _ member),
    fun c member => all c (List.mem_append_right _ member)⟩

theorem AllDigits.append {first second : List Char} (front : AllDigits first)
    (back : AllDigits second) : AllDigits (first ++ second) := by
  intro c member
  rcases List.mem_append.mp member with first | second
  · exact front c first
  · exact back c second

/-- At one place there is one longest literal. -/
theorem IsLongest.unique {first second rest after : List Char} (longest : IsLongest first rest)
    (other : IsLongest second after) (same : first ++ rest = second ++ after) :
    first = second ∧ rest = after := by
  have atMost := longest.longest second after same.symm other.isLiteral
  have atLeast := other.longest first rest same longest.isLiteral
  exact List.append_inj same (Nat.le_antisymm atLeast atMost)

/-! ### Splitting takes off as much as there is -/

theorem splitDigits_of_digits {digits : List Char} (all : AllDigits digits) (rest : List Char) :
    splitDigits (digits ++ rest) =
      (digits ++ (splitDigits rest).1, (splitDigits rest).2) := by
  simp [splitDigits, List.takeWhile_append_of_pos all, List.dropWhile_append_of_pos all]

theorem splitDigits_of_not_digit {c : Char} (other : c.isDigit = false) (rest : List Char) :
    splitDigits (c :: rest) = ([], c :: rest) := by
  simp [splitDigits, other]

theorem allDigits_splitDigits (text : List Char) : AllDigits (splitDigits text).1 :=
  fun _ member => List.mem_takeWhile_imp member

theorem splitPlusMinus_of_sign {sign digits : List Char}
    (isSign : sign = [] ∨ sign = ['+'] ∨ sign = ['-']) (all : AllDigits digits) (some : digits ≠ [])
    (rest : List Char) : splitPlusMinus (sign ++ (digits ++ rest)) = (sign, digits ++ rest) := by
  rcases isSign with rfl | rfl | rfl
  · cases digits with
    | nil => exact absurd rfl some
    | cons digit later =>
      have isDigit := all digit List.mem_cons_self
      unfold splitPlusMinus
      split
      · rename_i same
        cases same
        cases isDigit
      · rename_i same
        cases same
        cases isDigit
      · rfl
  · rfl
  · rfl

theorem isExponent_splitExponent (text : List Char) : IsExponent (splitExponent text).1 := by
  unfold splitExponent
  split
  · exact .absent
  · rename_i mark rest
    dsimp only
    split
    · rename_i marked
      refine .present marked.1 ?_ (allDigits_splitDigits _) marked.2
      unfold splitPlusMinus
      split
      · exact .inr (.inl rfl)
      · exact .inr (.inr rfl)
      · exact .inl rfl
    · exact .absent

/-- What can stand behind a mantissa as an exponent is taken off as one, or the mantissa went on. -/
theorem length_le_of_exponent {exponent : List Char} (isExponent : IsExponent exponent)
    (rest : List Char) :
    exponent = [] ∨ (splitDigits (exponent ++ rest) = ([], exponent ++ rest) ∧
      splitFraction (exponent ++ rest) = ([], exponent ++ rest) ∧
      exponent.length ≤ (splitExponent (exponent ++ rest)).1.length) := by
  cases isExponent with
  | absent => exact .inl rfl
  | @present mark sign digits isMark isSign all some =>
    refine .inr ⟨?_, ?_, ?_⟩
    · rcases isMark with rfl | rfl
      · exact splitDigits_of_not_digit rfl _
      · exact splitDigits_of_not_digit rfl _
    · rcases isMark with rfl | rfl
      · rfl
      · rfl
    · have digits_ne : digits ++ (splitDigits rest).1 ≠ [] :=
        List.append_ne_nil_of_left_ne_nil some _
      have signed := splitPlusMinus_of_sign isSign all some rest
      rw [List.cons_append, List.append_assoc]
      simp only [splitExponent, signed, splitDigits_of_digits all]
      rw [if_pos ⟨isMark, digits_ne⟩]
      simp

/-- No literal at the beginning of a text is longer than the one that is split off. -/
theorem length_le_split {literal : List Char} (isLiteral : IsLiteral literal) (rest : List Char) :
    literal.length ≤ (split (literal ++ rest)).1.length := by
  obtain ⟨isMantissa, isExponent⟩ := isLiteral
  rename_i mantissa exponent
  rw [List.append_assoc]
  cases isMantissa with
  | whole all some =>
    simp only [split, splitDigits_of_digits all]
    rcases length_le_of_exponent isExponent rest with rfl | ⟨digits, fraction, most⟩
    · simp
    · simp [digits, fraction, most]
  | @pointed whole fraction all some =>
    obtain ⟨wholeDigits, fractionDigits⟩ := all.of_append
    have point : splitDigits ('.' :: (fraction ++ (exponent ++ rest))) =
        ([], '.' :: (fraction ++ (exponent ++ rest))) := splitDigits_of_not_digit rfl _
    simp only [split, List.append_assoc, List.cons_append, splitDigits_of_digits wholeDigits, point,
      splitFraction, splitDigits_of_digits fractionDigits]
    rcases length_le_of_exponent isExponent rest with rfl | ⟨digits, -, most⟩
    · simp
    · simp [digits]
      omega

/-! ### Where a literal begins -/

theorem startsLiteral_cons (c : Char) (rest : List Char) :
    startsLiteral (c :: rest) = if c = '.' then startsWithDigit rest else c.isDigit := by
  unfold startsLiteral
  split
  · rename_i same
    cases same
    rfl
  · rename_i other
    rw [if_neg (fun point : c = '.' => other rest (point ▸ rfl))]
    rfl

theorem startsLiteral_append {literal : List Char} (isLiteral : IsLiteral literal)
    (rest : List Char) : startsLiteral (literal ++ rest) = true := by
  obtain ⟨isMantissa, -⟩ := isLiteral
  have digit : ∀ c : Char, c.isDigit = true → c ≠ '.' := by
    rintro c isDigit rfl
    cases isDigit
  cases isMantissa with
  | whole all some =>
    obtain ⟨c, later, rfl⟩ := List.exists_cons_of_ne_nil some
    have isDigit := all c List.mem_cons_self
    simp [startsLiteral_cons, digit c isDigit, isDigit]
  | @pointed whole fraction all some =>
    cases whole with
    | cons c later =>
      have isDigit := all c List.mem_cons_self
      simp [startsLiteral_cons, digit c isDigit, isDigit]
    | nil =>
      cases fraction with
      | nil => exact absurd rfl some
      | cons c later =>
        have isDigit := all c List.mem_cons_self
        simp [startsLiteral_cons, startsWithDigit, isDigit]

theorem isMantissa_split {text : List Char} (starts : startsLiteral text = true) :
    IsMantissa ((splitDigits text).1 ++ (splitFraction (splitDigits text).2).1) := by
  have whole := allDigits_splitDigits text
  cases text with
  | nil => cases starts
  | cons c rest =>
    rw [startsLiteral_cons] at starts
    by_cases point : c = '.'
    · rw [if_pos point] at starts
      subst point
      have fraction := allDigits_splitDigits rest
      have some : (splitDigits rest).1 ≠ [] := by
        unfold startsWithDigit at starts
        split at starts
        · simp [splitDigits, starts]
        · cases starts
      rw [splitDigits_of_not_digit rfl]
      exact .pointed fraction some
    · rw [if_neg point] at starts
      have some : (splitDigits (c :: rest)).1 ≠ [] := by simp [splitDigits, starts]
      unfold splitFraction
      split
      · exact .pointed (whole.append (allDigits_splitDigits _))
          (List.append_ne_nil_of_left_ne_nil some _)
      · rw [List.append_nil]
        exact .whole whole some

/-- Where the check passes, the longest literal is split off. -/
theorem split_isLongest {text : List Char} (starts : startsLiteral text = true) :
    IsLongest (split text).1 (split text).2 := by
  have exponent := isExponent_splitExponent (splitFraction (splitDigits text).2).2
  have isLiteral : IsLiteral (split text).1 := by
    rw [split, ← List.append_assoc]
    exact .parts (isMantissa_split starts) exponent
  refine ⟨isLiteral, fun other after same isOther => ?_⟩
  have most := length_le_split isOther after
  rwa [same, split_append] at most

/-- The check passes exactly where a literal begins. -/
theorem startsLiteral_iff {text : List Char} : startsLiteral text = true ↔
    ∃ literal rest, literal ++ rest = text ∧ IsLiteral literal := by
  constructor
  · intro starts
    exact ⟨_, _, split_append text, (split_isLongest starts).isLiteral⟩
  · rintro ⟨literal, rest, rfl, isLiteral⟩
    exact startsLiteral_append isLiteral rest

/-! ### The value of a literal -/

theorem readExponent?_of_isExponent {exponent : List Char} (isExponent : IsExponent exponent) :
    ∃ power, readExponent? exponent = some power := by
  cases isExponent with
  | absent => exact ⟨0, rfl⟩
  | @present mark sign digits isMark isSign all some =>
    have read : readDigits? digits = Option.some (digitsValue digits) :=
      if_pos ⟨some, List.all_eq_true.mpr all⟩
    have signed : (splitSign (sign ++ digits)).2 = digits := by
      rcases isSign with rfl | rfl | rfl
      · obtain ⟨digit, later, rfl⟩ := List.exists_cons_of_ne_nil some
        have isDigit := all digit List.mem_cons_self
        rw [List.nil_append]
        unfold splitSign
        split
        · rename_i same
          cases same
          cases isDigit
        · rename_i same
          cases same
          cases isDigit
        · rfl
      · rfl
      · rfl
    simp [readExponent?, isMark, signed, read]

theorem splitDigits_exponent {digits exponent : List Char} (all : AllDigits digits)
    (isExponent : IsExponent exponent) : splitDigits (digits ++ exponent) = (digits, exponent) := by
  rw [splitDigits_of_digits all]
  rcases length_le_of_exponent isExponent [] with rfl | ⟨none, -⟩
  · simp [splitDigits]
  · rw [List.append_nil] at none
    simp [none]

/-- Every literal stands for a number. -/
theorem exists_readDecimal? {literal : List Char} (isLiteral : IsLiteral literal) :
    ∃ value, readDecimal? literal = some value := by
  obtain ⟨isMantissa, isExponent⟩ := isLiteral
  rename_i mantissa exponent
  obtain ⟨power, reads⟩ := readExponent?_of_isExponent isExponent
  cases isMantissa with
  | whole all some =>
    obtain ⟨front, back⟩ := Prod.mk.inj (splitDigits_exponent all isExponent)
    have unpointed : (exponent.head? == Option.some '.') = false := by
      cases isExponent with
      | absent => rfl
      | present isMark => rcases isMark with rfl | rfl <;> rfl
    simp [readDecimal?, front, back, unpointed, some, reads]
  | @pointed whole fraction all some =>
    obtain ⟨wholeDigits, fractionDigits⟩ := all.of_append
    obtain ⟨front, back⟩ := Prod.mk.inj (splitDigits_exponent fractionDigits isExponent)
    have before : (whole ++ '.' :: (fraction ++ exponent)).takeWhile Char.isDigit = whole := by
      simp [List.takeWhile_append_of_pos wholeDigits]
    have after : (whole ++ '.' :: (fraction ++ exponent)).dropWhile Char.isDigit =
        '.' :: (fraction ++ exponent) := by
      simp [List.dropWhile_append_of_pos wholeDigits]
    have nonempty : ¬ (whole = [] ∧ fraction = []) := by simpa using some
    rw [List.append_assoc, List.cons_append]
    simp [readDecimal?, before, after, front, back, reads, nonempty]

theorem isExponent_of_readExponent? {text : List Char} {power : Int}
    (reads : readExponent? text = some power) : IsExponent text := by
  cases text with
  | nil => exact .absent
  | cons mark rest =>
    unfold readExponent? at reads
    dsimp only at reads
    by_cases isMark : mark = 'e' ∨ mark = 'E'
    · rw [if_pos isMark] at reads
      obtain ⟨n, readsDigits, -⟩ := Option.map_eq_some_iff.mp reads
      obtain ⟨some, all⟩ : (splitSign rest).2 ≠ [] ∧ (splitSign rest).2.all Char.isDigit = true := by
        by_contra refused
        rw [readDigits?, if_neg refused] at readsDigits
        cases readsDigits
      obtain ⟨sign, isSign, parts⟩ : ∃ sign : List Char,
          (sign = [] ∨ sign = ['+'] ∨ sign = ['-']) ∧ rest = sign ++ (splitSign rest).2 := by
        unfold splitSign
        split
        · exact ⟨['-'], .inr (.inr rfl), rfl⟩
        · exact ⟨['+'], .inr (.inl rfl), rfl⟩
        · exact ⟨[], .inl rfl, rfl⟩
      rw [parts]
      exact .present isMark isSign (List.all_eq_true.mp all) some
    · rw [if_neg isMark] at reads
      cases reads

/-- The reader of decimals takes literals and nothing else. -/
theorem isLiteral_of_readDecimal? {text : List Char} {value : Decimal}
    (reads : readDecimal? text = some value) : IsLiteral text := by
  have all : AllDigits (text.takeWhile Char.isDigit) := allDigits_splitDigits text
  have parts : text.takeWhile Char.isDigit ++ text.dropWhile Char.isDigit = text :=
    List.takeWhile_append_dropWhile
  unfold readDecimal? at reads
  dsimp only at reads
  generalize text.takeWhile Char.isDigit = whole at all parts reads
  generalize text.dropWhile Char.isDigit = later at parts reads
  subst parts
  by_cases pointed : later.head? = some '.'
  · obtain ⟨rest, rfl⟩ : ∃ rest, later = '.' :: rest := by
      cases later with
      | nil => cases pointed
      | cons c rest => exact ⟨rest, by rw [Option.some.inj pointed]⟩
    have fraction := allDigits_splitDigits rest
    simp only [List.head?_cons, BEq.rfl, if_true, List.drop_one, List.tail_cons] at reads
    split at reads
    · cases reads
    · rename_i some
      obtain ⟨power, readsPower, -⟩ := Option.map_eq_some_iff.mp reads
      have mantissa : IsMantissa (whole ++ '.' :: (splitDigits rest).1) :=
        .pointed (all.append fraction) (by simpa [splitDigits] using some)
      have literal := IsLiteral.parts mantissa (isExponent_of_readExponent? readsPower)
      rwa [List.append_assoc, List.cons_append, splitDigits, List.takeWhile_append_dropWhile]
        at literal
  · have unpointed : (later.head? == some '.') = false := by simpa using pointed
    simp only [unpointed, Bool.false_eq_true, if_false, List.isEmpty_nil, Bool.and_true] at reads
    split at reads
    · cases reads
    · rename_i some
      obtain ⟨power, readsPower, -⟩ := Option.map_eq_some_iff.mp reads
      exact .parts (.whole all (by simpa using some)) (isExponent_of_readExponent? readsPower)

theorem AllDigits.last {digits : List Char} (all : AllDigits digits) (some : digits ≠ []) :
    ∃ start last, digits = start ++ [last] ∧ last.isDigit = true :=
  ⟨_, _, (List.dropLast_concat_getLast some).symm, all _ (List.getLast_mem some)⟩

theorem IsMantissa.last {mantissa : List Char} (isMantissa : IsMantissa mantissa) :
    ∃ start last, mantissa = start ++ [last] ∧ (last.isDigit = true ∨ last = '.') := by
  cases isMantissa with
  | whole all some =>
    obtain ⟨start, last, same, digit⟩ := all.last some
    exact ⟨start, last, same, .inl digit⟩
  | @pointed whole fraction all some =>
    cases fraction with
    | nil => exact ⟨whole, '.', rfl, .inr rfl⟩
    | cons c rest =>
      obtain ⟨start, last, same, digit⟩ := all.of_append.2.last (List.cons_ne_nil c rest)
      exact ⟨whole ++ '.' :: start, last, by simp [same], .inl digit⟩

/-- Every literal ends with a digit or a point. -/
theorem last_of_isLiteral {literal : List Char} (isLiteral : IsLiteral literal) :
    ∃ start last, literal = start ++ [last] ∧ (last.isDigit = true ∨ last = '.') := by
  obtain ⟨isMantissa, isExponent⟩ := isLiteral
  rename_i mantissa exponent
  cases isExponent with
  | absent =>
    rw [List.append_nil]
    exact isMantissa.last
  | @present mark sign digits isMark isSign all some =>
    obtain ⟨start, last, same, digit⟩ := all.last some
    exact ⟨mantissa ++ mark :: (sign ++ start), last, by simp [same], .inl digit⟩

theorem IsLiteral.last {start : List Char} {c : Char} (isLiteral : IsLiteral (start ++ [c])) :
    c.isDigit = true ∨ c = '.' := by
  obtain ⟨start', last, same, ends⟩ := last_of_isLiteral isLiteral
  obtain ⟨-, same⟩ := List.append_inj' same rfl
  cases same
  exact ends

theorem IsMantissa.isLiteral {mantissa : List Char} (isMantissa : IsMantissa mantissa) :
    IsLiteral mantissa := by
  have parts := IsLiteral.parts isMantissa .absent
  rwa [List.append_nil] at parts

theorem isLiteral_digit {c : Char} (digit : c.isDigit = true) : IsLiteral [c] :=
  IsMantissa.isLiteral (.whole (List.forall_mem_singleton.mpr digit) (List.cons_ne_nil c []))

/-- Every literal begins with a digit or a point. -/
theorem head_of_isLiteral {literal : List Char} (isLiteral : IsLiteral literal) :
    ∃ c rest, literal = c :: rest ∧ (c.isDigit = true ∨ c = '.') := by
  have starts := startsLiteral_append isLiteral []
  rw [List.append_nil] at starts
  cases literal with
  | nil => cases starts
  | cons c rest =>
    refine ⟨c, rest, rfl, ?_⟩
    rw [startsLiteral_cons] at starts
    by_cases point : c = '.'
    · exact .inr point
    · rw [if_neg point] at starts
      exact .inl starts

theorem toLower_of_begins {c : Char} (begins : c.isDigit = true ∨ c = '.') : c.toLower = c := by
  rcases begins with digit | rfl
  · have below : c.val ≤ '9'.val := by
      simp only [Char.isDigit, Bool.and_eq_true, decide_eq_true_eq] at digit
      exact digit.2
    unfold Char.toLower
    rw [dif_neg]
    rintro ⟨above, -⟩
    exact absurd (UInt32.le_trans above below) (by decide)
  · rfl

/-- No word for a value that is not finite begins like a literal. -/
theorem readSpecial?_of_begins {c : Char} (begins : c.isDigit = true ∨ c = '.') (negative : Bool)
    (rest : List Char) : readSpecial? negative (c :: rest) = none := by
  have other : ∀ (letter : Char) (letters : List Char), letter.isDigit = false → letter ≠ '.' →
      String.ofList ((c :: rest).map Char.toLower) ≠ String.ofList (letter :: letters) := by
    rintro letter letters noDigit noPoint same
    rw [String.ofList_inj, List.map_cons, toLower_of_begins begins] at same
    cases same
    rcases begins with digit | point
    · rw [noDigit] at digit
      cases digit
    · exact noPoint point
  have finite : ∀ word ∈ ["inf", "infinity", "nan"],
      (String.ofList ((c :: rest).map Char.toLower) == word) = false := by
    intro word member
    rw [beq_eq_false_iff_ne]
    simp only [List.mem_cons, List.not_mem_nil, or_false] at member
    rcases member with rfl | rfl | rfl
    · exact other 'i' ['n', 'f'] rfl (by decide)
    · exact other 'i' "nfinity".toList rfl (by decide)
    · exact other 'n' ['a', 'n'] rfl (by decide)
  simp only [readSpecial?, finite "inf" (by simp), finite "infinity" (by simp),
    finite "nan" (by simp), Bool.or_false, Bool.false_eq_true, if_false]

/-- The double of a literal is the one nearest to its number. -/
theorem readFloat?_of_readDecimal? {c : Char} {rest : List Char} {value : Decimal}
    (begins : c.isDigit = true ∨ c = '.') (reads : readDecimal? (c :: rest) = some value) :
    readFloat? (c :: rest) = some (value.toFloat false) := by
  have unsigned : splitSign (c :: rest) = (false, c :: rest) := by
    unfold splitSign
    split
    · rename_i same
      cases same
      rcases begins with digit | point
      · cases digit
      · cases point
    · rename_i same
      cases same
      rcases begins with digit | point
      · cases digit
      · cases point
    · rfl
  simp [readFloat?, unsigned, readSpecial?_of_begins begins, reads]

end DeviceMapping.Literal
