/-
**The pieces of a normal form.**

* `rewritten`: the pieces that a normal form is written from, each literal in its normal form.
* `RunsTogether`: somewhere in the normal form a piece is joined with the one behind it (`Joins`). Two
  literals can touch at a point, and a literal that begins with a point can stand behind another
  point; it is given digits before its point, and these become part of what stands before them.
* `isDivision_rewritten`, `not_runsTogether_of_isDivision`: the normal form is divided into the
  rewritten pieces exactly if nothing runs together. One piece is `IsDivision.renewed`.
* `isSettled_rewritten`: then it is its own normal form, for the rewritten pieces are settled.
-/

import DeviceMapping.Proofs.Formula.Settled

namespace DeviceMapping.Literal

open Formula.Token (IsInfinite isLiteral_normalText separator continuesName_of_isDigit)

/-! ### The pieces of a normal form -/

/-- What a piece becomes, and the sign of multiplication behind it as characters of its own. -/
def Piece.rewritten (rest : List Piece) : Piece → List Piece
  | .literal text => .literal (normalText text) :: (separator rest).map .other
  | .other c => [.other c]

/-- The pieces that a normal form is written from. -/
def rewritten : List Piece → List Piece
  | [] => []
  | piece :: rest => piece.rewritten rest ++ rewritten rest

section Rewritten

theorem spelled_append (first second : List Piece) :
    spelled (first ++ second) = spelled first ++ spelled second :=
  List.flatMap_append

theorem spelled_others (text : List Char) : spelled (text.map .other) = text := by
  induction text with
  | nil => rfl
  | cons c rest ih => rw [List.map_cons, spelled_cons, ih, Piece.text_other, List.singleton_append]

theorem Piece.spelled_rewritten (piece : Piece) (rest : List Piece) :
    spelled (piece.rewritten rest) = piece.written rest := by
  cases piece with
  | literal text => rw [Piece.rewritten, spelled_cons, spelled_others]; rfl
  | other c => rfl

theorem spelled_rewritten (pieces : List Piece) : spelled (rewritten pieces) = rendered pieces := by
  induction pieces with
  | nil => rfl
  | cons piece rest ih =>
    rw [rewritten, spelled_append, Piece.spelled_rewritten, ih, rendered_cons]

end Rewritten

/-! ### Pieces that run together -/

/-- Behind the text that is written already, the piece is joined with the one behind it: two literals
touch and one of them at least is given a new form, or a literal is given digits behind a point that
no name and no number goes on before. -/
inductive Joins (written : List Char) : Piece → List Piece → Prop
  | literals {first second : List Char} {rest : List Piece}
      (changes : ¬ (IsInfinite first ∧ IsInfinite second)) :
      Joins written (.literal first) (.literal second :: rest)
  | point {literal : List Char} {rest : List Piece} (free : endsName written = false)
      (changes : ¬ IsInfinite literal) : Joins written (.other '.') (.literal literal :: rest)

/-- Behind the text that is written already, a piece is joined with the one behind it. -/
inductive RunsTogether : List Char → List Piece → Prop
  | here {written : List Char} {piece : Piece} {rest : List Piece}
      (joins : Joins written piece rest) : RunsTogether written (piece :: rest)
  | later {written : List Char} {piece : Piece} {rest : List Piece}
      (later : RunsTogether (written ++ piece.written rest) rest) :
      RunsTogether written (piece :: rest)

/-- A name goes on behind the written text where one goes on behind the text that is divided, unless
a sign of multiplication has just been written; and none does before a literal. -/
structure Linked (before written : List Char) (items : List Piece) : Prop where
  named : endsName before = true → endsName written = true ∨ multiplies (spelled items) = true
  free : ∀ literal rest, items = .literal literal :: rest → endsName written = false

section Linked

variable {before written : List Char} {items rest later : List Piece} {piece : Piece}

theorem linked_nil (items : List Piece) : Linked [] [] items :=
  ⟨nofun, fun _ _ _ => rfl⟩

/-- A literal of a division. -/
theorem IsDivision.isLongest {literal : List Char}
    (division : IsDivision before (spelled (.literal literal :: rest)) (.literal literal :: rest)) :
    IsLongest literal (spelled rest) := by
  obtain ⟨-, ⟨-, longest⟩, -⟩ := isDivision_cons_iff.mp division
  exact longest

theorem both_isInfinite {first second : List Char}
    (apart : ¬ Joins written (.literal first) (.literal second :: rest)) :
    IsInfinite first ∧ IsInfinite second := by
  by_contra changes
  exact apart (.literals changes)

/-- Over a piece that is not joined with the one behind it the written text stays linked. -/
theorem Linked.next
    (division : IsDivision before (spelled (piece :: rest)) (piece :: rest))
    (linked : Linked before written (piece :: rest)) (apart : ¬ Joins written piece rest) :
    Linked (before ++ piece.text) (written ++ piece.written rest) rest := by
  obtain ⟨-, stands, later⟩ := isDivision_cons_iff.mp division
  cases piece with
  | other c =>
    rw [Piece.text_other, Piece.written] at *
    refine ⟨fun named => .inl ?_, ?_⟩
    · rwa [endsName_concat] at named ⊢
    · rintro literal rest rfl
      obtain ⟨-, ⟨free, -⟩, -⟩ := isDivision_cons_iff.mp later
      rwa [endsName_concat] at free ⊢
  | literal literal =>
    have isLiteral := division.isLongest.isLiteral
    obtain ⟨c, tail, begins, -⟩ := head_of_isLiteral isLiteral
    have some : literal ≠ [] := by simp [begins]
    rw [Piece.text_literal, Piece.written] at *
    refine ⟨fun named => ?_, ?_⟩
    · cases alone : multiplies (spelled rest) with
      | true => exact .inr rfl
      | false =>
        refine .inl ?_
        rw [separator_of_not_multiplies alone, List.append_nil]
        by_cases infinite : IsInfinite literal
        · rw [normalText_of_isInfinite infinite, endsName_append some]
          rwa [endsName_append some] at named
        · exact endsName_of_isPlain (isWritten_normalText isLiteral infinite).isPlain written
    · rintro second rest rfl
      have longest := later.isLongest
      obtain ⟨infinite, -⟩ := both_isInfinite apart
      obtain ⟨-, ⟨free, -⟩, -⟩ := isDivision_cons_iff.mp later
      have alone : multiplies (spelled (.literal second :: rest)) = false :=
        multiplies_of_isLiteral longest.isLiteral _
      rw [separator_of_not_multiplies alone, List.append_nil, normalText_of_isInfinite infinite,
        endsName_append some]
      rwa [endsName_append some] at free

end Linked

/-! ### What stands in the normal form -/

section Stands

variable {before written : List Char} {rest later : List Piece} {c : Char} {literal : List Char}

/-- What is written first behind a piece that is not joined with it stood there before. -/
theorem head_of_rendered (division : IsDivision before (spelled rest) rest)
    (same : ∀ text later, rest = .literal text :: later → IsInfinite text) {tail : List Char}
    (begins : rendered rest = c :: tail) : ∃ tail', spelled rest = c :: tail' := by
  cases rest with
  | nil => cases begins
  | cons piece rest =>
    rw [rendered_cons] at begins
    cases piece with
    | other d =>
      cases begins
      exact ⟨spelled rest, rfl⟩
    | literal text =>
      obtain ⟨d, tail', rfl, -⟩ := head_of_isLiteral division.isLongest.isLiteral
      rw [Piece.written, normalText_of_isInfinite (same _ _ rfl)] at begins
      cases (List.cons.inj begins).1
      exact ⟨tail' ++ spelled rest, rfl⟩

/-- The normal form of a literal is the longest one where it stands. -/
theorem isLongest_written
    (division : IsDivision before (spelled (.literal literal :: rest)) (.literal literal :: rest))
    (apart : ¬ Joins written (.literal literal) rest) :
    IsLongest (normalText literal) (separator rest ++ rendered rest) := by
  have longest := division.isLongest
  have isLiteral := longest.isLiteral
  obtain ⟨-, -, later⟩ := isDivision_cons_iff.mp division
  refine isLongest_of_stops (isLiteral_normalText isLiteral) fun c tail begins => ?_
  cases alone : multiplies (spelled rest) with
  | true =>
    rw [separator_of_multiplies alone] at begins
    obtain ⟨rfl, -⟩ := List.cons.inj begins
    refine ⟨fun longer => ?_, by decide⟩
    rcases longer.last with digit | point
    · cases digit
    · cases point
  | false =>
    rw [separator_of_not_multiplies alone, List.nil_append] at begins
    obtain ⟨tail', begins'⟩ := head_of_rendered later
      (fun second _ same => (both_isInfinite (same ▸ apart)).2) begins
    rw [begins'] at longest alone
    refine ⟨fun longer => longest.stops ?_, fun isMark => ?_⟩
    · by_cases infinite : IsInfinite literal
      · rwa [normalText_of_isInfinite infinite] at longer
      · have plain := (isWritten_normalText isLiteral infinite).isPlain
        exact isLiteral.concat_digit (isDigit_of_isPlain plain longer)
    · cases (multiplies_of_isMark isMark tail').symm.trans alone

theorem rendered_literal (isLiteral : IsLiteral literal) (finite : ¬ IsInfinite literal)
    (rest : List Piece) : ∃ c tail, rendered (.literal literal :: rest) = c :: tail ∧
      c.isDigit = true := by
  obtain ⟨c, tail, begins, digit⟩ := (isWritten_normalText isLiteral finite).head
  refine ⟨c, tail ++ separator rest ++ rendered rest, ?_, digit⟩
  rw [rendered_cons, Piece.written, begins]
  rfl

/-- Where another character stands, no literal begins in the normal form either. -/
theorem passes_written (division : IsDivision before (spelled (.other c :: rest)) (.other c :: rest))
    (linked : Linked before written (.other c :: rest)) (apart : ¬ Joins written (.other c) rest) :
    (!endsName written && startsLiteral (c :: rendered rest)) = false := by
  obtain ⟨-, stands, later⟩ := isDivision_cons_iff.mp division
  by_contra starts
  obtain ⟨free, starts⟩ : endsName written = false ∧ startsLiteral (c :: rendered rest) = true := by
    simpa using starts
  have begins : c.isDigit = true ∨ c = '.' := by
    rw [startsLiteral_cons] at starts
    by_cases point : c = '.'
    · exact .inr point
    · exact .inl (by rwa [if_neg point] at starts)
  have none : startsLiteral (c :: spelled rest) = false := by
    rcases stands with named | none
    · have alone := multiplies_of_begins begins (spelled rest)
      rcases linked.named named with named | multiplied
      · cases free.symm.trans named
      · cases alone.symm.trans multiplied
    · by_contra starts
      exact none (startsLiteral_iff.mp (Bool.eq_true_of_not_eq_false starts))
  rw [startsLiteral_cons] at starts none
  by_cases point : c = '.'
  · subst point
    rw [if_pos rfl] at starts none
    cases digits : rendered rest with
    | nil =>
      rw [digits] at starts
      cases starts
    | cons d tail =>
      have infinite : ∀ text later, rest = .literal text :: later → IsInfinite text := by
        rintro text later rfl
        by_contra changes
        exact apart (.point free changes)
      obtain ⟨tail', begins⟩ := head_of_rendered later infinite digits
      rw [digits] at starts
      rw [begins] at none
      cases none.symm.trans starts
  · rw [if_neg point] at starts none
    cases none.symm.trans starts

/-- The sign of multiplication is other characters. -/
theorem IsDivision.separated {text : List Char} {pieces : List Piece}
    (behind : IsDivision (before ++ separator rest) text pieces) :
    IsDivision before (separator rest ++ text) ((separator rest).map .other ++ pieces) := by
  cases alone : multiplies (spelled rest) with
  | false =>
    rw [separator_of_not_multiplies alone, List.append_nil] at behind
    rw [separator_of_not_multiplies alone]
    exact behind
  | true =>
    rw [separator_of_multiplies alone] at behind ⊢
    refine .passed (by simp [startsLiteral_cons]) (.passed (by simp [startsLiteral_cons])
      (.passed (by simp [startsLiteral_cons]) ?_))
    simpa using behind

/-- **One piece of a normal form.** A piece that is not joined with the one behind it becomes its
rewritten pieces in the division of the normal form. -/
theorem IsDivision.renewed {piece : Piece}
    (division : IsDivision before (spelled (piece :: rest)) (piece :: rest))
    (linked : Linked before written (piece :: rest)) (apart : ¬ Joins written piece rest)
    (behind : IsDivision (written ++ piece.written rest) (rendered rest) later) :
    IsDivision written (rendered (piece :: rest)) (piece.rewritten rest ++ later) := by
  rw [rendered_cons]
  cases piece with
  | other c => exact .passed (passes_written division linked apart) behind
  | literal literal =>
    rw [Piece.written, ← List.append_assoc] at behind
    have separated := behind.separated
    have longest := isLongest_written division apart
    rw [Piece.written, Piece.rewritten, List.cons_append, List.append_assoc]
    have spells : spelled ((separator rest).map .other ++ later) = separator rest ++ rendered rest :=
      separated.spells
    refine isDivision_cons_iff.mpr ⟨?_, ⟨linked.free literal rest rfl, ?_⟩, ?_⟩
    · rw [spells, Piece.text_literal]
    · rwa [spells]
    · rwa [spells, Piece.text_literal]

end Stands

/-! ### The division of a normal form -/

theorem IsSettled.others {pieces : List Piece} (settled : IsSettled pieces) (text : List Char) :
    IsSettled (text.map .other ++ pieces) := by
  induction text with
  | nil => exact settled
  | cons c text ih => exact isSettled_cons_iff.mpr ⟨nofun, ih⟩

section Divisions

variable {before written : List Char} {pieces : List Piece}

theorem isDivision_rewritten (division : IsDivision before (spelled pieces) pieces)
    (linked : Linked before written pieces) (apart : ¬ RunsTogether written pieces) :
    IsDivision written (rendered pieces) (rewritten pieces) := by
  induction pieces generalizing before written with
  | nil => exact isDivision_nil_iff.mpr rfl
  | cons piece rest ih =>
    obtain ⟨-, -, later⟩ := isDivision_cons_iff.mp division
    have here : ¬ Joins written piece rest := fun joins => apart (.here joins)
    refine division.renewed linked here (ih later (linked.next division here) ?_)
    exact fun later => apart (.later later)

theorem IsDivision.of_append {text : List Char} {first second : List Piece}
    (division : IsDivision before text (first ++ second)) :
    IsDivision (before ++ spelled first) (spelled second) second := by
  refine ⟨rfl, fun front piece back same => ?_⟩
  have stands := division.stands (first ++ front) piece back (by simp [same])
  rwa [spelled_append, ← List.append_assoc] at stands

/-- Behind a point and before a digit a literal begins. -/
theorem isLiteral_point_digit {c : Char} (digit : c.isDigit = true) : IsLiteral ['.', c] :=
  IsMantissa.isLiteral
    (@IsMantissa.pointed [] [c] (List.forall_mem_singleton.mpr digit) (List.cons_ne_nil c []))

/-- Where pieces run together, the normal form is divided in another way. -/
theorem not_runsTogether_of_isDivision (division : IsDivision before (spelled pieces) pieces)
    (again : IsDivision written (rendered pieces) (rewritten pieces)) :
    ¬ RunsTogether written pieces := by
  intro runs
  induction runs generalizing before with
  | @later written piece rest _ ih =>
    obtain ⟨-, -, later⟩ := isDivision_cons_iff.mp division
    have behind := again.of_append
    rw [Piece.spelled_rewritten, spelled_rewritten] at behind
    exact ih later behind
  | @here written piece rest joins =>
    obtain ⟨-, -, later⟩ := isDivision_cons_iff.mp division
    cases joins with
    | @literals first second rest changes =>
      have isLiteral := later.isLongest.isLiteral
      have alone : multiplies (spelled (.literal second :: rest)) = false :=
        multiplies_of_isLiteral isLiteral _
      rw [rewritten, Piece.rewritten, separator_of_not_multiplies alone] at again
      obtain ⟨-, ⟨-, longest⟩, behind⟩ := isDivision_cons_iff.mp again
      obtain ⟨-, ⟨free, -⟩, -⟩ := isDivision_cons_iff.mp behind
      have isLiteral' := division.isLongest.isLiteral
      by_cases infinite : IsInfinite first
      · have finite : ¬ IsInfinite second := fun infinite' => changes ⟨infinite, infinite'⟩
        obtain ⟨c, tail, begins, digit⟩ := rendered_literal isLiteral finite rest
        have next : IsLongest first (c :: tail) := by
          rw [normalText_of_isInfinite infinite] at longest
          rwa [← begins, ← spelled_rewritten]
        exact next.stops (isLiteral'.concat_digit digit)
      · have plain := (isWritten_normalText isLiteral' infinite).isPlain
        cases free.symm.trans (endsName_of_isPlain plain written)
    | @point literal rest free changes =>
      obtain ⟨-, ⟨-, longest⟩, -⟩ := isDivision_cons_iff.mp later
      obtain ⟨-, named | none, -⟩ := isDivision_cons_iff.mp again
      · cases free.symm.trans named
      · obtain ⟨c, tail, begins, digit⟩ := rendered_literal longest.isLiteral changes rest
        refine none ⟨['.', c], tail, ?_, isLiteral_point_digit digit⟩
        have behind : spelled (rewritten (.literal literal :: rest)) = c :: tail := by
          rw [spelled_rewritten, begins]
        exact congrArg ('.' :: ·) behind.symm

/-- The rewritten pieces are settled. -/
theorem isSettled_rewritten (division : IsDivision before (spelled pieces) pieces) :
    IsSettled (rewritten pieces) := by
  induction pieces generalizing before with
  | nil => exact isSettled_nil
  | cons piece rest ih =>
    obtain ⟨-, -, later⟩ := isDivision_cons_iff.mp division
    have settled := ih later
    cases piece with
    | other c => exact isSettled_cons_iff.mpr ⟨nofun, settled⟩
    | literal literal =>
      have isLiteral := division.isLongest.isLiteral
      rw [rewritten, Piece.rewritten, List.cons_append]
      refine isSettled_cons_iff.mpr ⟨?_, settled.others (separator rest)⟩
      intro _ same
      cases same
      refine ⟨normalText_normalText isLiteral, ?_⟩
      rw [spelled_append, spelled_others, spelled_rewritten]
      cases alone : multiplies (spelled rest) with
      | true =>
        rw [separator_of_multiplies alone]
        exact multiplies_of_blank _
      | false =>
        rw [separator_of_not_multiplies alone, List.nil_append]
        cases rest with
        | nil => rfl
        | cons next rest =>
          cases next with
          | other c => exact alone
          | literal second =>
            rw [rendered_cons, Piece.written, List.append_assoc]
            exact multiplies_of_isLiteral (isLiteral_normalText later.isLongest.isLiteral) _

end Divisions

end DeviceMapping.Literal
