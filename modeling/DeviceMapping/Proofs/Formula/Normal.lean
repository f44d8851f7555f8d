/-
**Normal forms change the literals and nothing else.**

* `IsDivision`: a text divided into literals and other characters, said place by place. A literal is
  the longest one where it stands, and no name goes on before it; where another character stands no
  literal could begin. Every text has one division (`IsDivision.unique`, `exists_division`).
* `rendered`: the pieces written one after the other, a literal in its normal form and with a sign
  of multiplication where it stands directly before a name or an opening bracket.
* `rewritten_normalText`: the normal form of a literal is plain decimal text of the same double, and
  a literal that is too large is left alone.
* `normalize_exact`: the normal form of a formula is its one division rendered.
-/

import DeviceMapping.Proofs.Decimal.ReadBack
import DeviceMapping.Proofs.Formula.Grammar

namespace DeviceMapping.Literal

/-! ### Divisions -/

/-- A part of a text: a literal or another character. -/
inductive Piece where
  | literal (text : List Char)
  | other (c : Char)
  deriving DecidableEq

/-- The text of a piece. -/
def Piece.text : Piece → List Char
  | literal text => text
  | other c => [c]

/-- The text that pieces make up. -/
def spelled (pieces : List Piece) : List Char :=
  pieces.flatMap Piece.text

/-- The text ends with a letter, a number or an underscore, so a name may go on behind it. -/
def endsName (text : List Char) : Bool :=
  text.getLast?.any continuesName

/-- Between the texts before and after it the piece stands rightly. A literal is the longest one
there is, and no name goes on before it; where another character stands no literal could begin. -/
def StandsBetween (before after : List Char) : Piece → Prop
  | .literal text => endsName before = false ∧ IsLongest text after
  | .other c => endsName before = true ∨
      ¬ ∃ literal rest, literal ++ rest = c :: after ∧ IsLiteral literal

/-- The text behind `before` is divided into literals and other characters. -/
structure IsDivision (before text : List Char) (pieces : List Piece) : Prop where
  spells : spelled pieces = text
  stands : ∀ front piece back, pieces = front ++ piece :: back →
    StandsBetween (before ++ spelled front) (spelled back) piece

@[simp] theorem spelled_nil : spelled [] = [] := rfl

@[simp] theorem spelled_cons (piece : Piece) (rest : List Piece) :
    spelled (piece :: rest) = piece.text ++ spelled rest := rfl

@[simp] theorem Piece.text_literal (text : List Char) : (Piece.literal text).text = text := rfl

@[simp] theorem Piece.text_other (c : Char) : (Piece.other c).text = [c] := rfl

section Division

variable {before text : List Char} {pieces others : List Piece} {piece : Piece}

theorem IsDivision.respelled (division : IsDivision before text pieces) :
    IsDivision before (spelled pieces) pieces :=
  ⟨rfl, division.stands⟩

theorem isDivision_nil_iff : IsDivision before text [] ↔ text = [] := by
  constructor
  · intro division
    exact division.spells.symm
  · rintro rfl
    exact ⟨rfl, by simp⟩

/-- A division is a piece that stands rightly and a division of the text behind it. -/
theorem isDivision_cons_iff : IsDivision before text (piece :: pieces) ↔
    text = piece.text ++ spelled pieces ∧ StandsBetween before (spelled pieces) piece ∧
      IsDivision (before ++ piece.text) (spelled pieces) pieces := by
  constructor
  · intro division
    refine ⟨division.spells.symm, ?_, rfl, ?_⟩
    · simpa using division.stands [] piece pieces rfl
    · rintro front other back rfl
      simpa using division.stands (piece :: front) other back rfl
  · rintro ⟨rfl, stands, division⟩
    refine ⟨rfl, fun front other back same => ?_⟩
    cases front with
    | nil =>
      cases same
      simpa using stands
    | cons first front =>
      cases same
      simpa using division.stands front other back rfl

/-- Where a name does not go on and a literal begins, the longest one is the first piece. -/
theorem IsDivision.split (free : endsName before = false) (starts : startsLiteral text = true)
    (later : IsDivision (before ++ (Literal.split text).1) (Literal.split text).2 pieces) :
    IsDivision before text (.literal (Literal.split text).1 :: pieces) := by
  have back : spelled pieces = (Literal.split text).2 := later.spells
  rw [isDivision_cons_iff, back]
  exact ⟨(split_append text).symm, ⟨free, split_isLongest starts⟩, later⟩

/-- Where a name goes on or no literal begins, the first character is a piece. -/
theorem IsDivision.passed {c : Char} {rest : List Char}
    (passes : (!endsName before && startsLiteral (c :: rest)) = false)
    (later : IsDivision (before ++ [c]) rest pieces) :
    IsDivision before (c :: rest) (.other c :: pieces) := by
  have back : spelled pieces = rest := later.spells
  rw [isDivision_cons_iff, back]
  refine ⟨rfl, ?_, later⟩
  cases attached : endsName before with
  | true => exact .inl attached
  | false =>
    refine .inr fun begins => ?_
    rw [attached, startsLiteral_iff.mpr begins] at passes
    cases passes

theorem StandsBetween.text_ne_nil {after : List Char}
    (stands : StandsBetween before after piece) : piece.text ≠ [] := by
  cases piece with
  | literal text =>
    obtain ⟨c, rest, rfl, -⟩ := head_of_isLiteral stands.2.isLiteral
    exact List.cons_ne_nil c rest
  | other c => exact List.cons_ne_nil c []

/-- One piece stands rightly at the beginning of a text. -/
theorem StandsBetween.unique {other : Piece} {after later : List Char}
    (stands : StandsBetween before after piece) (stands' : StandsBetween before later other)
    (same : piece.text ++ after = other.text ++ later) : piece = other ∧ after = later := by
  -- a literal and another character cannot both stand there
  have apart : ∀ text c {first second : List Char}, StandsBetween before first (.literal text) →
      StandsBetween before second (.other c) → text ++ first ≠ c :: second := by
    rintro text c first second ⟨free, longest⟩ noLiteral begins
    rcases noLiteral with attached | none
    · rw [free] at attached
      cases attached
    · exact none ⟨text, first, begins, longest.isLiteral⟩
  cases piece with
  | literal text =>
    cases other with
    | literal text' =>
      obtain ⟨rfl, rfl⟩ := stands.2.unique stands'.2 same
      exact ⟨rfl, rfl⟩
    | other c => exact absurd same (apart text c stands stands')
  | other c =>
    cases other with
    | literal text => exact absurd same.symm (apart text c stands' stands)
    | other d =>
      cases same
      exact ⟨rfl, rfl⟩

/-- A text is divided in one way. -/
theorem IsDivision.unique (division : IsDivision before text pieces)
    (other : IsDivision before text others) : pieces = others := by
  induction pieces generalizing before text others with
  | nil =>
    cases isDivision_nil_iff.mp division
    cases others with
    | nil => rfl
    | cons first back =>
      obtain ⟨spells, stands, -⟩ := isDivision_cons_iff.mp other
      exact absurd (List.append_eq_nil_iff.mp spells.symm).1 stands.text_ne_nil
  | cons piece rest ih =>
    obtain ⟨spells, stands, later⟩ := isDivision_cons_iff.mp division
    cases others with
    | nil =>
      cases isDivision_nil_iff.mp other
      exact absurd (List.append_eq_nil_iff.mp spells.symm).1 stands.text_ne_nil
    | cons first back =>
      obtain ⟨spells', stands', later'⟩ := isDivision_cons_iff.mp other
      obtain ⟨rfl, behind⟩ := stands.unique stands' (spells.symm.trans spells')
      rw [ih later (behind ▸ later')]

theorem IsDivision.iff_eq (division : IsDivision before text pieces) :
    IsDivision before text others ↔ others = pieces := by
  refine ⟨fun other => other.unique division, ?_⟩
  rintro rfl
  exact division

end Division

/-! ### The normal form -/

/-- The pieces one after the other, every literal in its normal form and with a sign of
multiplication where it stands directly before what it multiplies. -/
def rendered : List Piece → List Char
  | [] => []
  | .literal text :: rest =>
    normalText text ++ (if multiplies (spelled rest) then " * ".toList else []) ++ rendered rest
  | .other c :: rest => c :: rendered rest

theorem endsName_concat (before : List Char) (c : Char) :
    endsName (before ++ [c]) = continuesName c := by
  simp [endsName]

theorem endsName_append {last : List Char} (some : last ≠ []) (before : List Char) :
    endsName (before ++ last) = last.getLast?.any continuesName := by
  rw [endsName, List.getLast?_append_of_ne_nil _ some]

/-- Going through a text from left to right divides it, and writes its pieces down. -/
theorem exists_division (before text : List Char) :
    ∃ pieces, IsDivision before text pieces ∧
      normalizeFrom (endsName before) text = rendered pieces := by
  generalize attached : endsName before = flag
  fun_induction normalizeFrom flag text generalizing before with
  | case1 flag text starts literal ih =>
    obtain ⟨free, begins⟩ : flag = false ∧ startsLiteral text = true := by simpa using starts
    have behind := endsName_append (split_ne_nil begins) before
    obtain ⟨pieces, division, written⟩ := ih (before ++ literal.1) behind
    have back : spelled pieces = literal.2 := division.spells
    refine ⟨.literal literal.1 :: pieces, .split (attached.trans free) begins division, ?_⟩
    rw [rendered, back, written]
    rfl
  | case2 flag starts => exact ⟨[], isDivision_nil_iff.mpr rfl, rfl⟩
  | case3 flag c rest starts ih =>
    obtain ⟨pieces, division, written⟩ := ih (before ++ [c]) (endsName_concat before c)
    have passes : (!endsName before && startsLiteral (c :: rest)) = false := by
      rw [attached]
      exact Bool.eq_false_of_not_eq_true starts
    exact ⟨.other c :: pieces, .passed passes division, by rw [rendered, written]⟩

/-- The normal form of a text is its division written piece by piece. -/
theorem IsDivision.normalizeFrom_eq {text : List Char} {pieces : List Piece}
    (division : IsDivision [] text pieces) : normalizeFrom false text = rendered pieces := by
  obtain ⟨others, other, written⟩ := exists_division [] text
  rw [division.unique other]
  exact written

/-! ### What becomes of a literal -/

/-- The bits of a decimal are those of a finite double or of infinity. -/
theorem bits_le_infinityBits (decimal : Decimal) : decimal.bits ≤ Binary64.infinityBits := by
  have ratio : ∀ numerator denominator,
      Binary64.bitsOfRatio numerator denominator ≤ Binary64.infinityBits := by
    intro numerator denominator
    unfold Binary64.bitsOfRatio
    split
    · exact Nat.zero_le _
    · exact Nat.min_le_right _ _
  unfold Decimal.bits
  split
  · exact Nat.zero_le _
  · split
    · exact Nat.le_refl _
    · split
      · exact Nat.zero_le _
      · split
        · exact ratio _ _
        · exact ratio _ _

/-- What a literal is written as: where its value is finite, plain decimal text of the same double,
and where it is not, the literal as it is. -/
def Rewritten (literal written : List Char) : Prop :=
  ∃ value, readDecimal? literal = some value ∧ readFloat? literal = some (value.toFloat false) ∧
    ((value.bits < Binary64.infinityBits ∧ IsPlain written ∧
        (∃ read, readDecimal? written = some read ∧ read.bits = value.bits) ∧
        readFloat? written = some (value.toFloat false)) ∨
      (value.bits = Binary64.infinityBits ∧ written = literal))

theorem head_of_isPlain {text : List Char} (plain : IsPlain text) :
    ∃ c rest, text = c :: rest ∧ (c.isDigit = true ∨ c = '.') := by
  obtain ⟨whole, fraction, rfl, some, -, digits⟩ := plain
  obtain ⟨c, rest, rfl⟩ := List.exists_cons_of_ne_nil some
  exact ⟨c, rest ++ '.' :: fraction, rfl, .inl (digits c List.mem_cons_self)⟩

theorem rewritten_normalText {literal : List Char} (isLiteral : IsLiteral literal) :
    Rewritten literal (normalText literal) := by
  obtain ⟨c, rest, rfl, begins⟩ := head_of_isLiteral isLiteral
  obtain ⟨value, reads⟩ := exists_readDecimal? isLiteral
  refine ⟨value, reads, readFloat?_of_readDecimal? begins reads, ?_⟩
  by_cases finite : value.bits < Binary64.infinityBits
  · have same := Binary64.bits_shortest finite
    have written : normalText (c :: rest) = (Binary64.shortest value.bits).positional := by
      simp only [normalText, reads, if_pos finite]
    obtain ⟨plain, read, reads', bits⟩ :=
      readDecimal?_positional (Binary64.shortest value.bits) (same.symm ▸ finite)
    rw [same] at bits
    rw [← written] at plain reads'
    refine .inl ⟨finite, plain, ⟨read, reads', bits⟩, ?_⟩
    obtain ⟨d, later, is, begins'⟩ := head_of_isPlain plain
    rw [is] at reads' ⊢
    rw [readFloat?_of_readDecimal? begins' reads', Decimal.toFloat, bits]
    rfl
  · have written : normalText (c :: rest) = c :: rest := by
      simp only [normalText, reads, if_neg finite]
    exact .inr ⟨Nat.le_antisymm (bits_le_infinityBits value) (Nat.le_of_not_lt finite), written⟩

/-- **Normal forms change the literals and nothing else.** A formula is divided into literals and
other characters in one way, and its normal form is that division written piece by piece: the other
characters as they are, every literal in its normal form, with a sign of multiplication behind it
exactly where the next character is an opening bracket, an underscore or a letter. The normal form
of a literal of finite value is plain decimal text of the same double, and a literal of infinite
value is its own normal form. -/
theorem normalize_exact (formula : String) :
    ∃ pieces, (∀ others, IsDivision [] formula.toList others ↔ others = pieces) ∧
      (normalize formula).toList = rendered pieces ∧
      ∀ literal, .literal literal ∈ pieces → Rewritten literal (normalText literal) := by
  obtain ⟨pieces, division, written⟩ := exists_division [] formula.toList
  refine ⟨pieces, fun others => ⟨fun other => other.unique division, ?_⟩, ?_, ?_⟩
  · rintro rfl
    exact division
  · rw [normalize, String.toList_ofList]
    exact written
  · intro literal member
    obtain ⟨front, back, rfl⟩ := List.append_of_mem member
    exact rewritten_normalText (division.stands front _ back rfl).2.isLiteral

/-- A literal before a name, a digit that belongs to the name, and a literal that is too large. -/
def crowdedFormula : List Piece :=
  [.literal ['2'], .other 'x', .other '5', .other '+', .literal "1e400".toList]

theorem normalize_exact_crowded :
    IsDivision [] "2x5+1e400".toList crowdedFormula ∧
      (normalize "2x5+1e400").toList = "2.0 * x5+1e400".toList ∧
      Rewritten "1e400".toList "1e400".toList := by
  obtain ⟨pieces, only, written, each⟩ := normalize_exact "2x5+1e400"
  have notThere : ∀ text, startsLiteral text = false →
      ¬ ∃ literal rest, literal ++ rest = text ∧ IsLiteral literal := fun text stops begins => by
    rw [startsLiteral_iff.mpr begins] at stops
    cases stops
  have division : IsDivision [] "2x5+1e400".toList crowdedFormula := by
    refine isDivision_cons_iff.mpr ⟨rfl, ⟨rfl, @split_isLongest "2x5+1e400".toList rfl⟩, ?_⟩
    refine isDivision_cons_iff.mpr ⟨rfl, .inl rfl, ?_⟩
    refine isDivision_cons_iff.mpr ⟨rfl, .inl rfl, ?_⟩
    refine isDivision_cons_iff.mpr ⟨rfl, .inr (notThere _ rfl), ?_⟩
    refine isDivision_cons_iff.mpr ⟨rfl, ⟨rfl, @split_isLongest "1e400".toList rfl⟩, ?_⟩
    exact isDivision_nil_iff.mpr rfl
  cases (only _).mp division
  have value : normalText "1e400".toList = "1e400".toList := by decide +kernel
  have large := each "1e400".toList (by simp [crowdedFormula])
  rw [value] at large
  refine ⟨division, ?_, large⟩
  rw [written]
  decide +kernel

end DeviceMapping.Literal
