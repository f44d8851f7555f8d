/-
**Strings, numbers and blanks are read by the grammar.**

* `readUnicode?_eq_some_iff`: the escapes of units.
* `says_of_readString?`, `readString?_of_said`: what is read up to the closing quote of a string is
  what it says. One character takes one step at most.
* `says_of_splitNumber?`, `splitNumber?_of_said`: what a number is split into are its parts, if no
  number goes on behind them (`EndsNumber`).
* `saysNumber_integer`: a whole number that fits 64 bits is written as one number of its value.
* `blanks_skipSpace`, `skipSpace_of_blanks`: all blanks before what does not begin with one are
  passed over.
-/

import DeviceMapping.Json.Printer
import DeviceMapping.Proofs.Json.Grammar
import Mathlib.Data.List.Basic
import Mathlib.Data.List.TakeWhile

namespace DeviceMapping.Json

/-! ### Escapes -/

section Escapes

variable {text rest : List Char} {n : Nat} {c : Option Char}

theorem isHighHalf_iff : isHighHalf n = true ↔ IsHigh n := by
  simp [isHighHalf, IsHigh]

theorem isLowHalf_iff : isLowHalf n = true ↔ IsLow n := by
  simp [isLowHalf, IsLow]

theorem readUnit?_eq_some_iff : readUnit? text = some (n, rest) ↔ SaysUnit text n rest := by
  constructor
  · intro reads
    rcases text with _ | ⟨a, _ | ⟨b, _ | ⟨c, _ | ⟨d, behind⟩⟩⟩⟩
    · cases reads
    · cases reads
    · cases reads
    · cases reads
    · simp only [readUnit?, Option.bind_eq_bind, Option.bind_eq_some_iff, Option.some.injEq,
        Prod.mk.injEq] at reads
      obtain ⟨i, first, j, second, k, third, l, fourth, rfl, rfl⟩ := reads
      rw [show ((i * 16 + j) * 16 + k) * 16 + l = 0x1000 * i + 0x100 * j + 0x10 * k + l by omega]
      exact .digits first second third fourth
  · rintro ⟨first, second, third, fourth⟩
    simp only [readUnit?, first, second, third, fourth, Option.bind_eq_bind, Option.bind_some,
      Option.some.injEq, Prod.mk.injEq, and_true]
    omega

theorem SaysUnit.unique {n' : Nat} {rest' : List Char} (unit : SaysUnit text n rest)
    (unit' : SaysUnit text n' rest') : n = n' ∧ rest = rest' := by
  rw [← readUnit?_eq_some_iff] at unit unit'
  simpa using unit.symm.trans unit'

theorem afterWord?_eq_some_iff {word : List Char} :
    afterWord? word text = some rest ↔ text = word ++ rest := by
  induction word generalizing text with
  | nil => simp [afterWord?]
  | cons c word ih =>
    cases text with
    | nil => simp [afterWord?]
    | cons d text =>
      by_cases same : c = d
      · simp [afterWord?, same, ih]
      · simp [afterWord?, same, Ne.symm same]

/-- The second half that may follow a first one. -/
theorem bind_readUnit?_eq_some_iff {low : Nat} {behind : List Char} :
    (afterWord? ['\\', 'u'] rest).bind readUnit? = some (low, behind) ↔
      ∃ digits, rest = '\\' :: 'u' :: digits ∧ SaysUnit digits low behind := by
  simp only [Option.bind_eq_some_iff, afterWord?_eq_some_iff, readUnit?_eq_some_iff,
    List.cons_append, List.nil_append]

theorem readUnicode?_eq_some_iff :
    readUnicode? text = some (c, rest) ↔ SaysUnicode text c rest := by
  constructor
  · intro reads
    simp only [readUnicode?, Option.bind_eq_bind, Option.bind_eq_some_iff] at reads
    obtain ⟨⟨n, behind⟩, unit, reads⟩ := reads
    rw [readUnit?_eq_some_iff] at unit
    dsimp only at reads
    split at reads
    · rename_i isHigh
      rw [isHighHalf_iff] at isHigh
      split at reads
      · rename_i low behind' follows
        obtain ⟨digits, rfl, second⟩ := bind_readUnit?_eq_some_iff.mp follows
        split at reads
        · rename_i isLow
          cases reads
          exact .pair unit isHigh second (isLowHalf_iff.mp isLow)
        · rename_i notLow
          cases reads
          refine .high unit isHigh fun digits' low' behind' same second' => ?_
          cases same
          obtain ⟨rfl, -⟩ := second.unique second'
          exact mt isLowHalf_iff.mpr notLow
      · rename_i none
        cases reads
        refine .high unit isHigh fun digits low behind same second => ?_
        rw [bind_readUnit?_eq_some_iff.mpr ⟨digits, same, second⟩] at none
        cases none
    · rename_i notHigh
      split at reads
      · rename_i isLow
        cases reads
        exact .low unit (isLowHalf_iff.mp isLow)
      · rename_i notLow
        cases reads
        exact .whole unit (mt isHighHalf_iff.mpr notHigh) (mt isLowHalf_iff.mpr notLow)
  · intro escape
    cases escape with
    | whole unit notHigh notLow =>
      have found := readUnit?_eq_some_iff.mpr unit
      simp [readUnicode?, found, isHighHalf_iff, isLowHalf_iff, notHigh, notLow]
    | pair first isHigh second isLow =>
      have found := readUnit?_eq_some_iff.mpr first
      have follows := bind_readUnit?_eq_some_iff.mpr ⟨_, rfl, second⟩
      simp [readUnicode?, found, isHighHalf_iff.mpr isHigh, follows, isLowHalf_iff.mpr isLow,
        pairedChar]
    | @low n _ _ unit isLow =>
      have found := readUnit?_eq_some_iff.mpr unit
      have notHigh : ¬ IsHigh n := fun isHigh => Nat.not_lt.mpr isLow.1 isHigh.2
      simp [readUnicode?, found, isHighHalf_iff, notHigh, isLowHalf_iff.mpr isLow]
    | high unit isHigh alone =>
      have found := readUnit?_eq_some_iff.mpr unit
      simp only [readUnicode?, found, Option.bind_eq_bind, Option.bind_some,
        isHighHalf_iff.mpr isHigh, if_true]
      cases follows : (afterWord? ['\\', 'u'] rest).bind readUnit? with
      | none => rfl
      | some second =>
        obtain ⟨digits, same, second'⟩ := bind_readUnit?_eq_some_iff.mp follows
        have notLow : ¬ IsLow second.1 := alone digits _ _ same second'
        simp [isLowHalf_iff, notLow]

theorem SaysUnit.length_lt (unit : SaysUnit text n rest) : rest.length < text.length := by
  cases unit
  simp only [List.length_cons]
  omega

theorem SaysUnicode.length_lt (escape : SaysUnicode text c rest) :
    rest.length < text.length := by
  cases escape with
  | whole unit => exact unit.length_lt
  | pair first _ second =>
    have front := first.length_lt
    have behind := second.length_lt
    simp only [List.length_cons] at front
    omega
  | low unit => exact unit.length_lt
  | high unit => exact unit.length_lt

theorem mem_shortEscapes_iff {letter c : Char} :
    (letter, c) ∈ shortEscapes ↔ shortEscape? letter = some c := by
  constructor
  · intro member
    simp only [shortEscapes, List.mem_cons, Prod.mk.injEq, List.not_mem_nil, or_false] at member
    rcases member with ⟨rfl, rfl⟩ | ⟨rfl, rfl⟩ | ⟨rfl, rfl⟩ | ⟨rfl, rfl⟩ | ⟨rfl, rfl⟩ |
      ⟨rfl, rfl⟩ | ⟨rfl, rfl⟩ | ⟨rfl, rfl⟩
    all_goals rfl
  · intro stands
    unfold shortEscape? at stands
    split at stands
    all_goals first
      | (cases stands; decide)
      | cases stands

end Escapes

/-! ### Strings -/

section Strings

variable {text rest : List Char} {said : Option (List Char)} {steps : Nat}
  {done : Option (List Char)}

/-- The characters that are read already and those behind them. -/
def joined (done said : Option (List Char)) : Option String :=
  done.bind fun done => said.map fun said => String.ofList (done.reverse ++ said)

theorem joined_bind (done said : Option (List Char)) (c : Option Char) :
    joined (done.bind fun done => c.map (· :: done)) said =
      joined done (c.bind fun c => said.map (c :: ·)) := by
  cases done with
  | none => rfl
  | some done =>
    cases c with
    | none => rfl
    | some c => cases said <;> simp [joined, -String.ofList_append]

theorem joined_map (done said : Option (List Char)) (c : Char) :
    joined (done.map (c :: ·)) said = joined done (said.map (c :: ·)) := by
  cases done with
  | none => rfl
  | some done => cases said <;> simp [joined, -String.ofList_append]

/-- What is read of a string is what it says. -/
theorem says_of_readString? {read : Option String}
    (reads : readString? steps done text = some (read, rest)) :
    ∃ said, SaysString text said rest ∧ read = joined done said := by
  fun_induction readString? steps done text with
  | case1 => cases reads
  | case2 => cases reads
  | case3 steps done behind =>
    cases reads
    refine ⟨some [], .close, ?_⟩
    cases done <;> simp [joined]
  | case4 steps done behind ih =>
    obtain ⟨⟨c, digits⟩, escape, reads⟩ := Option.bind_eq_some_iff.mp reads
    obtain ⟨said, later, rfl⟩ := ih _ reads
    exact ⟨_, .unicode (readUnicode?_eq_some_iff.mp escape) later, joined_bind done said c⟩
  | case5 steps done letter behind _ ih =>
    obtain ⟨c, escape, reads⟩ := Option.bind_eq_some_iff.mp reads
    obtain ⟨said, later, rfl⟩ := ih _ reads
    exact ⟨_, .short (mem_shortEscapes_iff.mpr escape) later, joined_map done said c⟩
  | case6 steps done c behind _ _ _ control => cases reads
  | case7 steps done c behind notQuote _ notEscape plain ih =>
    obtain ⟨said, later, rfl⟩ := ih reads
    refine ⟨_, .plain notQuote (fun slash => ?_) (Nat.not_lt.mp plain) later,
      joined_map done said c⟩
    cases behind with
    | nil => cases later
    | cons d tail => exact notEscape d tail slash rfl

theorem SaysString.length_lt (string : SaysString text said rest) : rest.length < text.length := by
  induction string with
  | close => exact Nat.lt_succ_self _
  | plain _ _ _ _ ih => exact Nat.lt_succ_of_lt ih
  | short _ _ ih =>
    simp only [List.length_cons]
    omega
  | unicode escape _ ih =>
    have shorter := escape.length_lt
    simp only [List.length_cons]
    omega

/-- A string is read as what it says. -/
theorem readString?_of_said (string : SaysString text said rest) (enough : text.length ≤ steps) :
    readString? steps done text = some (joined done said, rest) := by
  induction string generalizing steps done with
  | close =>
    cases steps with
    | zero => cases enough
    | succ steps => cases done <;> simp [readString?, joined]
  | @plain c _ _ said notQuote notEscape notControl _ ih =>
    cases steps with
    | zero => cases enough
    | succ steps =>
      rw [readString?, if_neg (Nat.not_lt.mpr notControl), ih (Nat.le_of_succ_le_succ enough),
        joined_map]
      · exact notQuote
      · exact fun _ slash _ => notEscape slash
      · exact fun _ _ slash _ => notEscape slash
  | @short letter c _ _ said escape _ ih =>
    cases steps with
    | zero => cases enough
    | succ steps =>
      rw [mem_shortEscapes_iff] at escape
      rw [readString?, escape, Option.bind_some, ih (by simp at enough; omega), joined_map]
      rintro rfl
      cases escape
  | @unicode c digits text rest said escape _ ih =>
    cases steps with
    | zero => cases enough
    | succ steps =>
      have shorter := escape.length_lt
      rw [readString?, readUnicode?_eq_some_iff.mpr escape, Option.bind_some,
        ih (by simp at enough; omega), joined_bind]

end Strings

/-! ### Numbers -/

/-- The text does not begin with one of the characters. -/
def BeginsOtherwise (marks text : List Char) : Prop :=
  ∀ c later, text = c :: later → c ∉ marks

theorem BeginsOtherwise.ne_cons {marks text : List Char} (other : BeginsOtherwise marks text)
    {mark : Char} (isMark : mark ∈ marks) (later : List Char) : text ≠ mark :: later :=
  fun same => other mark later same isMark

theorem beginsOtherwise_cons {c : Char} {marks : List Char} (other : c ∉ marks)
    (later : List Char) : BeginsOtherwise marks (c :: later) := by
  intro first _ same
  rwa [← (List.cons.inj same).1]

/-- No digit goes on with the text. -/
def EndsDigits (rest : List Char) : Prop :=
  ∀ c later, rest = c :: later → c.isDigit = false

theorem endsDigits_cons {c : Char} (other : c.isDigit = false) (later : List Char) :
    EndsDigits (c :: later) := by
  intro first _ same
  rwa [← (List.cons.inj same).1]

/-- No number goes on with the text. -/
structure EndsNumber (rest : List Char) : Prop where
  noDigit : EndsDigits rest
  noMark : BeginsOtherwise ['.', 'e', 'E'] rest

section Numbers

variable {text rest digits : List Char} {number : NumberText}

/-! #### The parts -/

theorem isDigits_spanDigits (some : (spanDigits text).1 ≠ []) : IsDigits (spanDigits text).1 :=
  ⟨some, fun _ member => List.mem_takeWhile_imp member⟩

theorem spanDigits_append (text : List Char) :
    (spanDigits text).1 ++ (spanDigits text).2 = text :=
  List.takeWhile_append_dropWhile

/-- Digits are taken up to where they end. -/
theorem spanDigits_of_isDigits (isDigits : IsDigits digits) (ends : EndsDigits rest) :
    spanDigits (digits ++ rest) = (digits, rest) := by
  have front : ∀ rest, EndsDigits rest → spanDigits rest = ([], rest) := by
    intro rest ends
    cases rest with
    | nil => rfl
    | cons c later => simp [spanDigits, ends c later rfl]
  have all := isDigits.all
  have behind := front rest ends
  rw [spanDigits, Prod.mk.injEq] at behind
  rw [spanDigits, List.takeWhile_append_of_pos all, List.dropWhile_append_of_pos all, behind.1,
    behind.2, List.append_nil]

theorem saysMinus_splitMinus (text : List Char) :
    SaysMinus text (splitMinus text).1 (splitMinus text).2 := by
  unfold splitMinus
  split
  · exact .present
  · exact .absent

theorem saysFraction_splitFraction (digits : (splitFraction text).1 ≠ some []) :
    SaysFraction text (splitFraction text).1 (splitFraction text).2 := by
  unfold splitFraction at digits ⊢
  split
  · rename_i behind
    have isDigits : IsDigits (spanDigits behind).1 :=
      isDigits_spanDigits fun none => digits (congrArg some none)
    have fraction : SaysFraction ('.' :: ((spanDigits behind).1 ++ (spanDigits behind).2))
        (some (spanDigits behind).1) (spanDigits behind).2 := .present isDigits
    rwa [spanDigits_append] at fraction
  · exact .absent

theorem exists_sign (text : List Char) : ∃ sign, text = sign ++ (splitSign text).2 ∧
    (sign, (splitSign text).1) ∈ [([], false), (['+'], false), (['-'], true)] := by
  unfold splitSign
  split
  · exact ⟨['-'], rfl, by simp⟩
  · exact ⟨['+'], rfl, by simp⟩
  · exact ⟨[], rfl, by simp⟩

theorem saysExponent_of_mark {mark : Char} (isMark : mark = 'e' ∨ mark = 'E')
    (some : (spanDigits (splitSign text).2).1 ≠ []) :
    SaysExponent (mark :: text)
      (.some ((splitSign text).1, (spanDigits (splitSign text).2).1))
      (spanDigits (splitSign text).2).2 := by
  obtain ⟨sign, same, isSign⟩ := exists_sign text
  have exponent := @SaysExponent.present mark sign _ (spanDigits (splitSign text).2).2 _ isMark
    isSign (isDigits_spanDigits some)
  rwa [spanDigits_append, ← same] at exponent

theorem saysExponent_splitExponent (digits : (splitExponent text).1.map (·.2) ≠ some []) :
    SaysExponent text (splitExponent text).1 (splitExponent text).2 := by
  unfold splitExponent at digits ⊢
  split
  · exact saysExponent_of_mark (.inl rfl) fun none => digits (congrArg some none)
  · exact saysExponent_of_mark (.inr rfl) fun none => digits (congrArg some none)
  · exact .absent

/-- What a number is split into are its parts. -/
theorem says_of_splitNumber? (split : splitNumber? text = some (number, rest)) :
    SaysNumber text number rest := by
  simp only [splitNumber?] at split
  split at split
  · cases split
  · rename_i whole
    split at split
    · cases split
    · rename_i marked
      cases split
      simp only [Bool.or_eq_true, Bool.and_eq_true, List.isEmpty_iff, beq_iff_eq, bne_iff_ne,
        not_or, not_and, not_not] at whole marked
      refine .parts ?_ (isDigits_spanDigits whole.1) ?_
        (saysFraction_splitFraction marked.1) (saysExponent_splitExponent marked.2)
      · rw [spanDigits_append]
        exact saysMinus_splitMinus text
      · intro zero
        obtain ⟨c, single⟩ := List.length_eq_one_iff.mp (whole.2 zero)
        rw [single] at zero ⊢
        rw [Option.some.inj zero]

/-! #### The whole of it -/

theorem SaysExponent.ends {exponent : Option (Bool × List Char)}
    (marked : SaysExponent text exponent rest) (ends : EndsNumber rest) :
    EndsDigits text ∧ BeginsOtherwise ['.'] text := by
  cases marked with
  | absent =>
    refine ⟨ends.noDigit, fun c later same point => ends.noMark c later same ?_⟩
    exact List.mem_cons.mpr (.inl (List.mem_singleton.mp point))
  | present isMark =>
    rcases isMark with rfl | rfl
    · exact ⟨endsDigits_cons rfl _, beginsOtherwise_cons (by decide) _⟩
    · exact ⟨endsDigits_cons rfl _, beginsOtherwise_cons (by decide) _⟩

theorem SaysFraction.ends {fraction : Option (List Char)}
    (pointed : SaysFraction text fraction rest) (ends : EndsDigits rest) : EndsDigits text := by
  cases pointed with
  | absent => exact ends
  | present => exact endsDigits_cons rfl _

theorem splitMinus_of_said {negative : Bool} (minus : SaysMinus text negative rest)
    (other : BeginsOtherwise ['-'] rest) : splitMinus text = (negative, rest) := by
  cases minus with
  | absent =>
    unfold splitMinus
    split
    · exact absurd rfl (other.ne_cons (by decide) _)
    · rfl
  | present => rfl

theorem splitFraction_of_said {fraction : Option (List Char)}
    (pointed : SaysFraction text fraction rest) (ends : EndsDigits rest)
    (other : BeginsOtherwise ['.'] rest) : splitFraction text = (fraction, rest) := by
  cases pointed with
  | absent =>
    unfold splitFraction
    split
    · exact absurd rfl (other.ne_cons (by decide) _)
    · rfl
  | present isDigits => rw [splitFraction, spanDigits_of_isDigits isDigits ends]

/-- The sign of an exponent is followed by a digit. -/
theorem splitSign_of_isDigits {sign : List Char} {negative : Bool}
    (isSign : (sign, negative) ∈ [([], false), (['+'], false), (['-'], true)])
    (isDigits : IsDigits digits) (rest : List Char) :
    splitSign (sign ++ (digits ++ rest)) = (negative, digits ++ rest) := by
  simp only [List.mem_cons, Prod.mk.injEq, List.not_mem_nil, or_false] at isSign
  rcases isSign with ⟨rfl, rfl⟩ | ⟨rfl, rfl⟩ | ⟨rfl, rfl⟩
  · obtain ⟨c, later, rfl⟩ := List.exists_cons_of_ne_nil isDigits.some
    have digit := isDigits.all c List.mem_cons_self
    unfold splitSign
    split
    · rename_i same
      rw [(List.cons.inj same).1] at digit
      cases digit
    · rename_i same
      rw [(List.cons.inj same).1] at digit
      cases digit
    · rfl
  · rfl
  · rfl

theorem splitExponent_of_said {exponent : Option (Bool × List Char)}
    (marked : SaysExponent text exponent rest) (ends : EndsNumber rest) :
    splitExponent text = (exponent, rest) := by
  cases marked with
  | absent =>
    unfold splitExponent
    split
    · exact absurd rfl (ends.noMark.ne_cons (by decide) _)
    · exact absurd rfl (ends.noMark.ne_cons (by decide) _)
    · rfl
  | present isMark isSign isDigits =>
    rcases isMark with rfl | rfl
    · simp only [splitExponent, splitSign_of_isDigits isSign isDigits,
        spanDigits_of_isDigits isDigits ends.noDigit]
    · simp only [splitExponent, splitSign_of_isDigits isSign isDigits,
        spanDigits_of_isDigits isDigits ends.noDigit]

/-- A number is split into its parts, if no number goes on behind it. -/
theorem splitNumber?_of_said (parts : SaysNumber text number rest) (ends : EndsNumber rest) :
    splitNumber? text = some (number, rest) := by
  obtain @⟨whole, behind, behind', _, negative, fraction, exponent, minus, isDigits, leading,
    pointed, marked⟩ := parts
  obtain ⟨endsDigits, noPoint⟩ := marked.ends ends
  obtain ⟨c, later, same⟩ := List.exists_cons_of_ne_nil isDigits.some
  have noMinus : BeginsOtherwise ['-'] (whole ++ behind) := by
    have digit := isDigits.all c (same ▸ List.mem_cons_self)
    rw [same]
    refine beginsOtherwise_cons (fun isMinus => ?_) _
    rw [List.mem_singleton.mp isMinus] at digit
    cases digit
  have front : (whole.isEmpty || (whole.head? == some '0' && whole.length != 1)) = false := by
    by_cases zero : whole.head? = some '0'
    · rw [leading zero]
      rfl
    · simp [zero, isDigits.some]
  have fractionDigits : fraction ≠ some [] := by
    rintro rfl
    cases pointed with
    | present isDigits => exact isDigits.some rfl
  have exponentDigits : exponent.map (·.2) ≠ some [] := by
    cases marked with
    | absent => simp
    | present _ _ isDigits =>
      rw [Option.map_some]
      exact fun none => isDigits.some (Option.some.inj none)
  simp only [splitNumber?, splitMinus_of_said minus noMinus,
    spanDigits_of_isDigits isDigits (pointed.ends endsDigits),
    splitFraction_of_said pointed endsDigits noPoint, splitExponent_of_said marked ends, front]
  simp [fractionDigits, exponentDigits]

/-- What is put behind a text does not change the parts of the number in it. -/
theorem SaysNumber.append (parts : SaysNumber text number rest) (more : List Char) :
    SaysNumber (text ++ more) number (rest ++ more) := by
  obtain @⟨whole, behind, behind', _, negative, fraction, exponent, minus, isDigits, leading,
    pointed, marked⟩ := parts
  have minus' : SaysMinus (text ++ more) negative (whole ++ (behind ++ more)) := by
    rw [← List.append_assoc]
    cases minus with
    | absent => exact .absent
    | present => exact .present
  have pointed' : SaysFraction (behind ++ more) fraction (behind' ++ more) := by
    cases pointed with
    | absent => exact .absent
    | present isDigits =>
      rw [List.cons_append, List.append_assoc]
      exact .present isDigits
  have marked' : SaysExponent (behind' ++ more) exponent (rest ++ more) := by
    cases marked with
    | absent => exact .absent
    | present isMark isSign isDigits =>
      rw [List.cons_append, List.append_assoc, List.append_assoc]
      exact .present isMark isSign isDigits
  exact .parts minus' isDigits leading pointed' marked'

/-! #### Its value -/

theorem value_of_isWhole (isWhole : number.IsWhole) : number.value = .integer number.integer := by
  obtain ⟨negative, whole, fraction, exponent⟩ := number
  obtain ⟨rfl, rfl, fits, notMinusZero⟩ := isWhole
  cases negative with
  | false =>
    simp only [FitsWord, NumberText.integer, Bool.false_eq_true, if_false] at fits
    have below : digitsValue whole < 0x10000000000000000 := by omega
    simp [NumberText.value, NumberText.integer, below]
  | true =>
    simp only [FitsWord, NumberText.integer, if_true] at fits
    have positive := notMinusZero rfl
    simp only [NumberText.integer, if_true] at positive
    have within : 0 < digitsValue whole ∧ digitsValue whole ≤ 0x8000000000000000 := by omega
    simp [NumberText.value, NumberText.integer, within]

theorem value_of_not_isWhole (notWhole : ¬ number.IsWhole) :
    number.value = (number.double?.map WrittenJson.double).getD .unreadable := by
  obtain ⟨negative, whole, fraction, exponent⟩ := number
  have natural : (fraction.isNone && exponent.isNone && !negative &&
      decide (digitsValue whole < 0x10000000000000000)) = false := by
    rw [← Bool.not_eq_true]
    intro isWhole
    simp only [Bool.and_eq_true, Option.isNone_iff_eq_none, Bool.not_eq_true', decide_eq_true_eq]
      at isWhole
    obtain ⟨⟨⟨rfl, rfl⟩, rfl⟩, below⟩ := isWhole
    refine notWhole ⟨rfl, rfl, ?_, nofun⟩
    simp only [FitsWord, NumberText.integer, Bool.false_eq_true, if_false]
    omega
  have below : (fraction.isNone && exponent.isNone && negative &&
      decide (0 < digitsValue whole) && decide (digitsValue whole ≤ 0x8000000000000000)) =
        false := by
    rw [← Bool.not_eq_true]
    intro isWhole
    simp only [Bool.and_eq_true, Option.isNone_iff_eq_none, decide_eq_true_eq] at isWhole
    obtain ⟨⟨⟨⟨rfl, rfl⟩, rfl⟩, positive⟩, within⟩ := isWhole
    refine notWhole ⟨rfl, rfl, ?_, fun _ => ?_⟩
    · simp only [FitsWord, NumberText.integer, if_true]
      omega
    · simp only [NumberText.integer, if_true]
      omega
  simp only [NumberText.value, natural, below, Bool.false_eq_true, if_false]
  split <;> rename_i double <;> rw [double] <;> rfl

end Numbers

/-! ### Whole numbers -/

theorem digitsValue_digitsOf (n : Nat) : digitsValue (digitsOf n) = n :=
  Nat.ofDigitChars_toDigits (by decide) (by decide)

/-- Only zero is written with a zero in front. -/
theorem head?_digitsOf {n : Nat} (positive : 0 < n) : (digitsOf n).head? ≠ some '0' := by
  induction n using Nat.strongRecOn with
  | ind n ih =>
    unfold digitsOf
    rw [Nat.toDigits_eq_if (by decide)]
    split
    · rename_i small
      have digits : ∀ digit : Fin 10, 0 < digit.val → [Nat.digitChar digit].head? ≠ some '0' := by
        decide
      exact digits ⟨n, small⟩ positive
    · rename_i large
      rw [List.head?_append_of_ne_nil _ Nat.toDigits_ne_nil]
      exact ih (n / 10) (by omega) (by omega)

theorem isDigits_digitsOf (n : Nat) : IsDigits (digitsOf n) :=
  ⟨Nat.toDigits_ne_nil, fun _ member => Nat.isDigit_of_mem_toDigits (by decide) (by decide) member⟩

/-- The digits of a number are written as a whole number is. -/
theorem saysNumber_digitsOf {text : List Char} {negative : Bool} (n : Nat)
    (minus : SaysMinus text negative (digitsOf n)) :
    SaysNumber text ⟨negative, digitsOf n, none, none⟩ [] := by
  have leading : (digitsOf n).head? = some '0' → digitsOf n = ['0'] := by
    intro zero
    by_cases positive : 0 < n
    · exact absurd zero (head?_digitsOf positive)
    · rw [Nat.eq_zero_of_not_pos positive]
      rfl
  rw [← List.append_nil (digitsOf n)] at minus
  exact .parts minus (isDigits_digitsOf n) leading .absent .absent

/-- A whole number is written as one number that has its value. -/
theorem saysNumber_integer {n : Int} (fits : FitsWord n) :
    ∃ number : NumberText,
      SaysNumber (toString n).toList number [] ∧ number.Denotes (.integer n) := by
  rw [Int.toString_eq_repr, Int.repr_eq_if]
  split
  · rename_i natural
    have value : NumberText.integer ⟨false, digitsOf n.toNat, none, none⟩ = n := by
      simp only [NumberText.integer, digitsValue_digitsOf, Bool.false_eq_true, if_false]
      exact Int.toNat_of_nonneg natural
    have denotes := NumberText.Denotes.whole (⟨rfl, rfl, value.symm ▸ fits, nofun⟩ :
      NumberText.IsWhole ⟨false, digitsOf n.toNat, none, none⟩)
    rw [value] at denotes
    rw [Nat.toList_repr]
    exact ⟨_, saysNumber_digitsOf n.toNat .absent, denotes⟩
  · rename_i negative
    have value : NumberText.integer ⟨true, digitsOf (-n).toNat, none, none⟩ = n := by
      simp only [NumberText.integer, digitsValue_digitsOf, if_true]
      omega
    have notZero : n ≠ 0 := by omega
    have denotes := NumberText.Denotes.whole
      (⟨rfl, rfl, value.symm ▸ fits, fun _ => value.symm ▸ notZero⟩ :
        NumberText.IsWhole ⟨true, digitsOf (-n).toNat, none, none⟩)
    rw [value] at denotes
    rw [String.toList_append, Nat.toList_repr]
    exact ⟨_, saysNumber_digitsOf (-n).toNat .present, denotes⟩

/-! ### Blanks -/

section Blanks

variable {text rest : List Char} {c : Char}

theorem isSpace_iff : isSpace c = true ↔ c ∈ [' ', '\n', '\t', '\r'] := by
  simp [isSpace, or_assoc]

/-- The text does not begin with a blank. -/
def BeginsPlain (text : List Char) : Prop :=
  ∀ c later, text = c :: later → isSpace c = false

theorem beginsPlain_cons (plain : isSpace c = false) (later : List Char) :
    BeginsPlain (c :: later) := by
  intro first _ same
  rwa [← (List.cons.inj same).1]

theorem skipSpace_of_beginsPlain (plain : BeginsPlain text) : skipSpace text = text := by
  cases text with
  | nil => rfl
  | cons c later => simp [skipSpace, plain c later rfl]

theorem blanks_skipSpace (text : List Char) : Blanks text (skipSpace text) := by
  induction text with
  | nil => exact .none
  | cons c later ih =>
    cases space : isSpace c with
    | true =>
      rw [skipSpace, List.dropWhile_cons_of_pos space]
      exact .cons (isSpace_iff.mp space) ih
    | false =>
      rw [skipSpace, List.dropWhile_cons_of_neg (by simp [space])]
      exact .none

theorem skipSpace_of_blanks (blanks : Blanks text rest) (plain : BeginsPlain rest) :
    skipSpace text = rest := by
  induction blanks with
  | none => exact skipSpace_of_beginsPlain plain
  | cons blank _ ih =>
    rw [skipSpace, List.dropWhile_cons_of_pos (isSpace_iff.mpr blank)]
    exact ih plain

theorem beginsPlain_skipSpace (text : List Char) : BeginsPlain (skipSpace text) := by
  intro c later same
  have first := List.head?_dropWhile_not isSpace text
  rw [show text.dropWhile isSpace = c :: later from same] at first
  simpa using first

/-- The blanks before a value are passed over. -/
theorem readValue?_skipSpace (steps : Nat) (text : List Char) :
    readValue? steps (skipSpace text) = readValue? steps text := by
  cases steps with
  | zero => rfl
  | succ steps =>
    rw [readValue?, readValue?, skipSpace_of_beginsPlain (beginsPlain_skipSpace text)]

theorem Blanks.length_le (blanks : Blanks text rest) : rest.length ≤ text.length := by
  induction blanks with
  | none => exact Nat.le_refl _
  | cons _ _ ih => exact Nat.le_succ_of_le ih

/-- No number goes on with blanks or with what stands behind them. -/
theorem Blanks.endsNumber (blanks : Blanks text rest) (ends : EndsNumber rest) :
    EndsNumber text := by
  cases blanks with
  | none => exact ends
  | @cons c later _ blank =>
    have apart : ∀ c ∈ [' ', '\n', '\t', '\r'], c.isDigit = false ∧ c ∉ ['.', 'e', 'E'] := by
      simp
    exact ⟨endsDigits_cons (apart c blank).1 _, beginsOtherwise_cons (apart c blank).2 _⟩

/-- No number goes on with what may follow a value. -/
theorem endsNumber_cons (closing : c ∈ [',', ']', '\x7d']) (rest : List Char) :
    EndsNumber (c :: rest) := by
  have apart : ∀ c ∈ [',', ']', '\x7d'], c.isDigit = false ∧ c ∉ ['.', 'e', 'E'] := by simp
  exact ⟨endsDigits_cons (apart c closing).1 _, beginsOtherwise_cons (apart c closing).2 _⟩

end Blanks

end DeviceMapping.Json
