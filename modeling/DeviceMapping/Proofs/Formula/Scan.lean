/-
**The evaluator's cut of a normal form.**

Quotations and comments hide parts of a normal form from the evaluator, and a scan can be in the
midst of one. What holds everywhere is `Tracked`: the pieces are accounted for, and in an expression
a name that may go on is a word that is still open. One step of the scan keeps it, which takes the
items of the normal form one or two at a time (`Tracked.step`), and so does a whole run
(`Tracked.run`).
-/

import DeviceMapping.Proofs.Formula.Pieces

namespace DeviceMapping.Formula.Token

open Literal (IsLiteral IsMantissa IsDivision StandsBetween isDivision_cons_iff spelled rendered
  endsName endsName_concat continuesName multiplies normalText)

/-! ### Steps of the scan -/

section Step

variable {c : Char} {rest : List Char}

theorem scan_expression (pieces : List Piece) (noQuote : c ≠ '"')
    (noComment : c = '/' → rest.head? ≠ some '/' ∧ rest.head? ≠ some '*') :
    scan .expression pieces (c :: rest) = scan .expression (addChar c pieces) rest := by
  rw [scan]
  · rintro next rfl rfl
    exact (noComment rfl).1 rfl
  · rintro next rfl rfl
    exact (noComment rfl).2 rfl
  · rintro rfl
    exact noQuote rfl

theorem scan_quotation (text : List Char) (pieces : List Piece) (noQuote : c ≠ '"')
    (noEscape : c ≠ '\\') :
    scan (.quotation text) pieces (c :: rest) = scan (.quotation (c :: text)) pieces rest := by
  rw [scan]
  · rintro rfl
    exact noQuote rfl
  · rintro next rfl
    exact absurd rfl noEscape
  · rintro next rfl
    exact absurd rfl noEscape
  · rintro rfl
    exact noEscape rfl

/-- A quotation has two escapes, and no other. -/
theorem scan_escape (text : List Char) (pieces : List Piece) (noQuote : rest.head? ≠ some '"')
    (noEscape : rest.head? ≠ some '\\') : scan (.quotation text) pieces ('\\' :: rest) = none := by
  rw [scan]
  · rintro next rfl
    exact noQuote rfl
  · rintro next rfl
    exact noEscape rfl

theorem scan_lineComment (pieces : List Piece) (noBreak : c ≠ '\n') :
    scan .lineComment pieces (c :: rest) = scan .lineComment pieces rest := by
  rw [scan]
  exact noBreak

theorem scan_blockComment (pieces : List Piece) (noEnd : c = '*' → rest.head? ≠ some '/') :
    scan .blockComment pieces (c :: rest) = scan .blockComment pieces rest := by
  rw [scan]
  rintro next rfl rfl
  exact noEnd rfl rfl

end Step

/-! ### Text that begins and ends nothing -/

/-- The text holds no mark of a quotation, an escape or a line break, and neither ends a comment nor
begins one. -/
structure Inert (text : List Char) : Prop where
  quiet : ∀ c ∈ text, c ≠ '/' ∧ c ≠ '"' ∧ c ≠ '\\' ∧ c ≠ '\n'
  ends : text.getLast? ≠ some '*'

section Inert

variable {text : List Char}

theorem Inert.tail {c : Char} (inert : Inert (c :: text)) : Inert text := by
  refine ⟨fun d member => inert.quiet d (List.mem_cons_of_mem c member), fun last => ?_⟩
  have some : text ≠ [] := by
    rintro rfl
    cases last
  exact inert.ends (by rw [List.getLast?_cons_of_ne_nil some, last])

/-- An expression reads such a text character by character. -/
theorem scan_inert (inert : Inert text) (pieces : List Piece) (rest : List Char) :
    scan .expression pieces (text ++ rest) = scan .expression (addText text pieces) rest := by
  induction text generalizing pieces with
  | nil => rfl
  | cons c text ih =>
    obtain ⟨noSlash, noQuote, -⟩ := inert.quiet c List.mem_cons_self
    rw [List.cons_append, scan_expression pieces noQuote (fun slash => absurd slash noSlash),
      ih inert.tail, addText_cons]

/-- Quotations and comments go on over such a text. -/
theorem scan_inert_hidden (inert : Inert text) {region : Region} (hidden : region ≠ .expression)
    (pieces : List Piece) (rest : List Char) : ∃ later, later ≠ .expression ∧
      scan region pieces (text ++ rest) = scan later pieces rest := by
  induction text generalizing region with
  | nil => exact ⟨region, hidden, rfl⟩
  | cons c text ih =>
    obtain ⟨noSlash, noQuote, noEscape, noBreak⟩ := inert.quiet c List.mem_cons_self
    cases region with
    | expression => exact absurd rfl hidden
    | quotation quoted =>
      rw [List.cons_append, scan_quotation quoted pieces noQuote noEscape]
      exact ih inert.tail nofun
    | lineComment =>
      rw [List.cons_append, scan_lineComment pieces noBreak]
      exact ih inert.tail nofun
    | blockComment =>
      rw [List.cons_append, scan_blockComment pieces]
      · exact ih inert.tail nofun
      · rintro rfl slash
        cases text with
        | nil => exact inert.ends rfl
        | cons d text =>
          cases slash
          exact (inert.quiet '/' (by simp)).1 rfl

end Inert

/-! ### The state of a scan -/

/-- A scan at the text behind `before`, which is divided into the items: the pieces so far are
accounted for, and where a name may go on in an expression it is a word that is still open, unless a
sign of multiplication has just been written. -/
structure Tracked (source : List Literal.Piece) (before : List Char) (items : List Literal.Piece)
    (region : Region) (pieces : List Piece) : Prop where
  division : IsDivision before (spelled items) items
  members : ∀ literal, .literal literal ∈ items → .literal literal ∈ source
  accounted : Accounted source pieces
  linked : region = .expression → endsName before = true →
    openWord pieces ≠ [] ∨ multiplies (spelled items) = true

/-- The scan goes on in a tracked state with fewer items, or it fails. -/
def Continues (source : List Literal.Piece) (most : Nat) (result : Option (List Piece)) : Prop :=
  result = none ∨ ∃ before items region pieces, items.length ≤ most ∧
    Tracked source before items region pieces ∧ result = scan region pieces (rendered items)

/-! ### Items of a normal form -/

theorem mem_of_isLiteral {literal : List Char} (isLiteral : IsLiteral literal) {c : Char}
    (member : c ∈ literal) : c.isDigit = true ∨ c ∈ ".eE+-".toList := by
  obtain ⟨isMantissa, isExponent⟩ := isLiteral
  rcases List.mem_append.mp member with front | back
  · cases isMantissa with
    | whole all some => exact .inl (all c front)
    | pointed all some =>
      rcases List.mem_append.mp front with whole | fraction
      · exact .inl (all c (List.mem_append_left _ whole))
      · rcases List.mem_cons.mp fraction with rfl | fraction
        · exact .inr (by decide)
        · exact .inl (all c (List.mem_append_right _ fraction))
  · cases isExponent with
    | absent => cases back
    | present isMark isSign all some =>
      rcases List.mem_cons.mp back with rfl | back
      · rcases isMark with rfl | rfl
        · exact .inr (by decide)
        · exact .inr (by decide)
      · rcases List.mem_append.mp back with sign | digits
        · rcases isSign with rfl | rfl | rfl
          · cases sign
          · rw [List.mem_singleton.mp sign]
            exact .inr (by decide)
          · rw [List.mem_singleton.mp sign]
            exact .inr (by decide)
        · exact .inl (all c digits)

/-- No literal has a character that begins or ends a quotation or a comment. -/
theorem not_mem_of_isLiteral {literal : List Char} (isLiteral : IsLiteral literal) {c : Char}
    (noDigit : c.isDigit = false) (other : c ∉ ".eE+-".toList) : c ∉ literal := by
  intro member
  rcases mem_of_isLiteral isLiteral member with digit | listed
  · rw [noDigit] at digit
    cases digit
  · exact other listed

theorem inert_of_isLiteral {literal : List Char} (isLiteral : IsLiteral literal) :
    Inert literal := by
  have without : ∀ c ∈ "/\"\\\n*".toList, c ∉ literal := by
    intro c member
    have each : ("/\"\\\n*".toList.all fun d => !d.isDigit && !".eE+-".toList.contains d) = true := by
      decide
    obtain ⟨noDigit, other⟩ : c.isDigit = false ∧ c ∉ ".eE+-".toList := by
      simpa using List.all_eq_true.mp each c member
    exact not_mem_of_isLiteral isLiteral noDigit other
  refine ⟨fun c member => ⟨?_, ?_, ?_, ?_⟩, fun last => ?_⟩
  · rintro rfl
    exact without '/' (by decide) member
  · rintro rfl
    exact without '"' (by decide) member
  · rintro rfl
    exact without '\\' (by decide) member
  · rintro rfl
    exact without '\n' (by decide) member
  · exact without '*' (by decide) (List.mem_of_getLast? last)

theorem Inert.append {first second : List Char} (front : Inert first) (back : Inert second) :
    Inert (first ++ second) := by
  refine ⟨fun c member => ?_, ?_⟩
  · rcases List.mem_append.mp member with inFirst | inSecond
    · exact front.quiet c inFirst
    · exact back.quiet c inSecond
  · by_cases none : second = []
    · rw [none, List.append_nil]
      exact front.ends
    · rw [List.getLast?_append_of_ne_nil _ none]
      exact back.ends

/-- The sign of multiplication behind a literal, if there is one. -/
def separator (rest : List Literal.Piece) : List Char :=
  if multiplies (spelled rest) then " * ".toList else []

theorem inert_separator (rest : List Literal.Piece) : Inert (separator rest) := by
  unfold separator
  split
  · refine ⟨fun c member => ?_, by decide⟩
    obtain rfl | rfl | rfl : c = ' ' ∨ c = '*' ∨ c = ' ' := by simpa using member
    · decide
    · decide
    · decide
  · exact ⟨by simp, by simp⟩

/-- The normal form of a literal is a literal. -/
theorem isLiteral_normalText {literal : List Char} (isLiteral : IsLiteral literal) :
    IsLiteral (normalText literal) := by
  obtain ⟨value, -, -, ⟨-, ⟨whole, fraction, same, some, -, digits⟩, -⟩ | ⟨-, same⟩⟩ :=
    Literal.rewritten_normalText isLiteral
  · have mantissa := IsMantissa.pointed digits (List.append_ne_nil_of_left_ne_nil some fraction)
    have isLiteral := IsLiteral.parts mantissa .absent
    rwa [List.append_nil, ← same] at isLiteral
  · rwa [same]

/-- No number is written as a factor before a digit. -/
theorem multiplies_digit {c : Char} (digit : c.isDigit = true) : multiplies [c] = false := by
  have each : ∀ code ∈ List.range' 48 10, multiplies [Char.ofNat code] = false := by decide +kernel
  have bounds := Char.isDigit_iff_toNat.mp digit
  have listed : c.toNat ∈ List.range' 48 10 := by
    simp at bounds
    simp only [List.mem_range'_1]
    omega
  have same := each c.toNat listed
  rwa [Char.ofNat_toNat] at same

section Tracked

variable {source rest : List Literal.Piece} {before text : List Char} {c : Char} {region : Region}
  {pieces : List Piece}

/-- Of a literal in its normal form the pieces stay accounted for, and its word is open. -/
theorem accounted_written (accounted : Accounted source pieces) (isLiteral : IsLiteral text)
    (member : .literal text ∈ source) :
    Accounted source (addText (normalText text) pieces) ∧
      openWord (addText (normalText text) pieces) ≠ [] := by
  obtain ⟨value, reads, -, ⟨-, plain, -⟩ | ⟨large, same⟩⟩ := Literal.rewritten_normalText isLiteral
  · obtain ⟨still, is⟩ := accounted_plain accounted plain
    rw [is] at still ⊢
    obtain ⟨d, later, begins, -⟩ := Literal.head_of_isPlain plain
    exact ⟨still, by simp [openWord, begins]⟩
  · rw [same]
    exact accounted_infinite accounted isLiteral member ⟨value, reads, large⟩

/-- Another character begins no word with a digit. -/
theorem Tracked.digit_continues
    (tracked : Tracked source before (.other c :: rest) .expression pieces)
    (digit : c.isDigit = true) : openWord pieces ≠ [] := by
  obtain ⟨-, attached | none, -⟩ := isDivision_cons_iff.mp tracked.division
  · rcases tracked.linked rfl attached with opened | multiplied
    · exact opened
    · rw [show multiplies (spelled (.other c :: rest)) = multiplies [c] from rfl,
        multiplies_digit digit] at multiplied
      cases multiplied
  · exact absurd ⟨[c], spelled rest, rfl, Literal.isLiteral_digit digit⟩ none

theorem Tracked.char (tracked : Tracked source before (.other c :: rest) .expression pieces) :
    Accounted source (addChar c pieces) ∧
      (continuesName c = true → openWord (addChar c pieces) ≠ []) := by
  have accounted := tracked.accounted
  by_cases isWord : isWordChar c = true
  · rw [addChar_of_isWordChar isWord]
    refine ⟨accounted.extended fun fresh => neverWhole_of_not_digit ?_ [], ?_⟩
    · by_contra digit
      exact tracked.digit_continues (Bool.eq_true_of_not_eq_false digit) fresh
    · simp [openWord]
  · refine ⟨?_, fun continues => absurd (isWordChar_of_continuesName continues) isWord⟩
    unfold addChar
    split
    · exact accounted.cons fun word same => by cases same
    · split
      · exact accounted.cons fun word same => by cases same
      · rename_i noMark noBlank
        simp [isWordChar, noMark, noBlank] at isWord

/-- The scan has passed a character, and is hidden or no name goes on behind it. -/
theorem Tracked.passed (tracked : Tracked source before (.other c :: rest) region pieces)
    (later : Region) {found : List Piece} (accounted : Accounted source found)
    (linked : later = .expression → continuesName c = true → openWord found ≠ []) :
    Tracked source (before ++ [c]) rest later found := by
  obtain ⟨-, -, division⟩ := isDivision_cons_iff.mp tracked.division
  refine ⟨division, fun literal member => ?_, accounted, fun same attached => ?_⟩
  · exact tracked.members literal (List.mem_cons_of_mem _ member)
  · rw [endsName_concat] at attached
    exact .inl (linked same attached)

/-- Where the text goes on with a character that begins no literal, that character is next. -/
theorem eq_other_of_head? (division : IsDivision before (spelled rest) rest)
    (begins : (rendered rest).head? = some c) (noDigit : c.isDigit = false) (noPoint : c ≠ '.') :
    ∃ later, rest = .other c :: later := by
  cases rest with
  | nil => cases begins
  | cons item later =>
    cases item with
    | other d =>
      cases begins
      exact ⟨later, rfl⟩
    | literal text =>
      obtain ⟨-, stands, -⟩ := isDivision_cons_iff.mp division
      have written := isLiteral_normalText stands.2.isLiteral
      obtain ⟨d, after, same, head⟩ := Literal.head_of_isLiteral written
      rw [rendered, same] at begins
      cases begins
      rcases head with digit | point
      · rw [noDigit] at digit
        cases digit
      · exact absurd point noPoint

theorem Tracked.continues {most : Nat} (tracked : Tracked source before rest region pieces)
    (fewer : rest.length ≤ most) : Continues source most (scan region pieces (rendered rest)) :=
  .inr ⟨before, rest, region, pieces, fewer, tracked, rfl⟩

/-- One step over a literal. -/
theorem Tracked.step_literal
    (tracked : Tracked source before (.literal text :: rest) region pieces) :
    Continues source rest.length (scan region pieces (rendered (.literal text :: rest))) := by
  obtain ⟨-, stands, division⟩ := isDivision_cons_iff.mp tracked.division
  have isLiteral := stands.2.isLiteral
  have members : ∀ literal, .literal literal ∈ rest → .literal literal ∈ source :=
    fun literal member => tracked.members literal (List.mem_cons_of_mem _ member)
  have inert := (inert_of_isLiteral (isLiteral_normalText isLiteral)).append (inert_separator rest)
  rw [show rendered (.literal text :: rest) =
    (normalText text ++ separator rest) ++ rendered rest from rfl]
  by_cases visible : region = .expression
  · subst visible
    rw [scan_inert inert, addText_append]
    obtain ⟨accounted, opened⟩ := accounted_written tracked.accounted isLiteral
      (tracked.members text List.mem_cons_self)
    by_cases multiplied : multiplies (spelled rest) = true
    · have tracked : Tracked source (before ++ text) rest .expression
          (.blank :: .mark '*' :: .blank :: addText (normalText text) pieces) := by
        refine ⟨division, members, ?_, fun _ _ => .inr multiplied⟩
        refine Accounted.cons (Accounted.cons (accounted.cons ?_) ?_) ?_
        · nofun
        · nofun
        · nofun
      rw [separator, if_pos multiplied]
      exact tracked.continues (Nat.le_refl _)
    · have tracked : Tracked source (before ++ text) rest .expression
          (addText (normalText text) pieces) :=
        ⟨division, members, accounted, fun _ _ => .inl opened⟩
      rw [separator, if_neg multiplied]
      exact tracked.continues (Nat.le_refl _)
  · obtain ⟨later, hidden, same⟩ := scan_inert_hidden inert visible pieces (rendered rest)
    rw [same]
    exact Tracked.continues ⟨division, members, tracked.accounted, fun shown => absurd shown hidden⟩
      (Nat.le_refl _)

/-- One step over another character in an expression. -/
theorem Tracked.step_expression
    (tracked : Tracked source before (.other c :: rest) .expression pieces) :
    Continues source rest.length (scan .expression pieces (c :: rendered rest)) := by
  have accounted := tracked.accounted
  have next := (tracked.passed .lineComment accounted nofun).division
  by_cases quote : c = '"'
  · subst quote
    exact (tracked.passed (.quotation []) accounted nofun).continues (Nat.le_refl _)
  · by_cases line : c = '/' ∧ (rendered rest).head? = some '/'
    · obtain ⟨rfl, begins⟩ := line
      obtain ⟨later, rfl⟩ := eq_other_of_head? next begins rfl (by decide)
      have hidden := tracked.passed .lineComment accounted nofun
      exact (hidden.passed .lineComment accounted nofun).continues (Nat.le_succ _)
    · by_cases block : c = '/' ∧ (rendered rest).head? = some '*'
      · obtain ⟨rfl, begins⟩ := block
        obtain ⟨later, rfl⟩ := eq_other_of_head? next begins rfl (by decide)
        have hidden := tracked.passed .blockComment accounted nofun
        exact (hidden.passed .blockComment accounted nofun).continues (Nat.le_succ _)
      · rw [scan_expression pieces quote fun slash => ⟨fun begins => line ⟨slash, begins⟩,
          fun begins => block ⟨slash, begins⟩⟩]
        obtain ⟨still, opened⟩ := tracked.char
        exact (tracked.passed .expression still fun _ => opened).continues (Nat.le_refl _)

/-- One step over another character in a quotation. -/
theorem Tracked.step_quotation {quoted : List Char}
    (tracked : Tracked source before (.other c :: rest) (.quotation quoted) pieces) :
    Continues source rest.length (scan (.quotation quoted) pieces (c :: rendered rest)) := by
  have accounted := tracked.accounted
  have hidden := fun text => tracked.passed (.quotation text) accounted nofun
  by_cases quote : c = '"'
  · subst quote
    have text : Accounted source (.quoted (String.ofList quoted.reverse) :: pieces) :=
      accounted.cons nofun
    exact (tracked.passed .expression text fun _ attached => by cases attached).continues
      (Nat.le_refl _)
  · by_cases escape : c = '\\'
    · subst escape
      by_cases quotes : (rendered rest).head? = some '"'
      · obtain ⟨later, rfl⟩ := eq_other_of_head? (hidden []).division quotes rfl (by decide)
        exact ((hidden []).passed (.quotation ('"' :: quoted)) accounted nofun).continues
          (Nat.le_succ _)
      · by_cases escapes : (rendered rest).head? = some '\\'
        · obtain ⟨later, rfl⟩ := eq_other_of_head? (hidden []).division escapes rfl (by decide)
          exact ((hidden []).passed (.quotation ('\\' :: quoted)) accounted nofun).continues
            (Nat.le_succ _)
        · exact .inl (scan_escape quoted pieces quotes escapes)
    · rw [scan_quotation quoted pieces quote escape]
      exact (hidden (c :: quoted)).continues (Nat.le_refl _)

/-- One step over another character in a comment. -/
theorem Tracked.step_lineComment
    (tracked : Tracked source before (.other c :: rest) .lineComment pieces) :
    Continues source rest.length (scan .lineComment pieces (c :: rendered rest)) := by
  have accounted := tracked.accounted
  by_cases ends : c = '\n'
  · subst ends
    exact (tracked.passed .expression accounted fun _ attached => by cases attached).continues
      (Nat.le_refl _)
  · rw [scan_lineComment pieces ends]
    exact (tracked.passed .lineComment accounted nofun).continues (Nat.le_refl _)

theorem Tracked.step_blockComment
    (tracked : Tracked source before (.other c :: rest) .blockComment pieces) :
    Continues source rest.length (scan .blockComment pieces (c :: rendered rest)) := by
  have accounted := tracked.accounted
  have hidden := tracked.passed .blockComment accounted nofun
  by_cases ends : c = '*' ∧ (rendered rest).head? = some '/'
  · obtain ⟨rfl, begins⟩ := ends
    obtain ⟨later, rfl⟩ := eq_other_of_head? hidden.division begins rfl (by decide)
    exact (hidden.passed .expression accounted fun _ attached => by cases attached).continues
      (Nat.le_succ _)
  · rw [scan_blockComment pieces fun star begins => ends ⟨star, begins⟩]
    exact hidden.continues (Nat.le_refl _)

/-- **One step of a scan.** A tracked scan takes one or two items and is tracked again, or fails. -/
theorem Tracked.step {item : Literal.Piece}
    (tracked : Tracked source before (item :: rest) region pieces) :
    Continues source rest.length (scan region pieces (rendered (item :: rest))) := by
  cases item with
  | literal text => exact tracked.step_literal
  | other c =>
    cases region with
    | expression => exact tracked.step_expression
    | quotation quoted => exact tracked.step_quotation
    | lineComment => exact tracked.step_lineComment
    | blockComment => exact tracked.step_blockComment

/-- **A whole scan.** What a tracked scan cuts out is accounted for in the end. -/
theorem Tracked.run {items : List Literal.Piece} {result : List Piece}
    (tracked : Tracked source before items region pieces)
    (scanned : scan region pieces (rendered items) = some result) : Accounted source result := by
  -- a step takes one item or two, so the induction is on their number
  induction size : items.length using Nat.strong_induction_on
    generalizing before items region pieces with
  | _ size ih =>
    cases items with
    | nil =>
      cases region with
      | expression =>
        cases scanned
        exact tracked.accounted
      | quotation quoted => cases scanned
      | lineComment =>
        cases scanned
        exact tracked.accounted
      | blockComment => cases scanned
    | cons item rest =>
      rcases tracked.step with failed | ⟨before', items', region', pieces', fewer, next, same⟩
      · rw [failed] at scanned
        cases scanned
      · rw [same] at scanned
        refine ih items'.length ?_ next scanned rfl
        rw [← size, List.length_cons]
        omega

end Tracked

/-- Of the pieces of a normal form every word never becomes a whole number or is the rest of a
literal that was cut. -/
theorem accounted_scan {text : List Char} {source : List Literal.Piece} {result : List Piece}
    (division : IsDivision [] text source)
    (scanned : scan .expression [] (rendered source) = some result) : Accounted source result := by
  have start : Tracked source [] source .expression [] :=
    ⟨division.respelled, fun _ member => member, accounted_nil, fun _ attached => by cases attached⟩
  exact start.run scanned

end DeviceMapping.Formula.Token
