/-
**Normal forms of normal forms.**

* `not_settled_of_joins`: where two pieces are joined the second normal form differs from the first.
  The joined digits make up one literal with what stands before them, so the point of the next literal
  is passed over and its fraction begins a literal of its own. That one takes its fraction from the
  literal behind it (`Trails.next`), and so on until one finds none (`not_settled_of_trails`).
* `normalize_twice_iff`: what a second pass does to a normal form. It changes nothing if no pieces run
  together, and only then if no literal is too large. A literal that is too large can end what runs
  on, for it is left as it stands.
-/

import DeviceMapping.Proofs.Formula.Rewritten

namespace DeviceMapping.Literal

open Formula.Token (IsInfinite separator)

/-! ### Digits before a point -/

section Digits

variable {first second : List Char} {c : Char}

/-- Digits end where another character stands. -/
theorem AllDigits.append_inj {rest later : List Char} (all : AllDigits first)
    (all' : AllDigits second) (other : c.isDigit = false)
    (ends : ∀ d tail, later = d :: tail → d.isDigit = false)
    (same : first ++ c :: rest = second ++ later) : first = second ∧ c :: rest = later := by
  have stops : splitDigits later = ([], later) := by
    cases later with
    | nil => rfl
    | cons d tail => exact splitDigits_of_not_digit (ends d tail rfl) tail
  have split := congrArg splitDigits same
  rw [splitDigits_of_digits all, splitDigits_of_not_digit other, splitDigits_of_digits all',
    stops, List.append_nil, List.append_nil] at split
  exact Prod.mk.inj split

/-- Numbers are written without zeros in front. -/
theorem digitsOf_ne_zero_cons (n m : Nat) : digitsOf n ≠ '0' :: digitsOf m := by
  intro same
  by_cases zero : n = 0
  · subst zero
    have none : digitsOf m = [] := (List.cons.inj same).2.symm
    exact digitsOf_ne_nil m none
  · have head := Json.head?_digitsOf (Nat.pos_of_ne_zero zero)
    rw [same] at head
    exact head rfl

end Digits

/-! ### Divisions of digits and points -/

section Divides

variable {before text tail : List Char} {pieces : List Piece}

/-- Where a literal begins and no name goes on, it is the first piece. -/
theorem IsDivision.exists_literal (division : IsDivision before text pieces)
    (free : endsName before = false) (starts : startsLiteral text = true) :
    ∃ literal back, pieces = .literal literal :: back := by
  cases pieces with
  | nil =>
    cases isDivision_nil_iff.mp division
    cases starts
  | cons piece back =>
    cases piece with
    | literal literal => exact ⟨literal, back, rfl⟩
    | other c =>
      obtain ⟨rfl, named | none, -⟩ := isDivision_cons_iff.mp division
      · cases free.symm.trans named
      · exact absurd (startsLiteral_iff.mp starts) none

/-- Plain decimal text before another point is a literal, and the point is not part of one. -/
theorem IsDivision.exists_plain {plain : List Char}
    (division : IsDivision before (plain ++ '.' :: tail) pieces) (free : endsName before = false)
    (isPlain : IsPlain plain) : ∃ back, pieces = .literal plain :: .other '.' :: back ∧
      IsDivision (before ++ plain ++ ['.']) tail back := by
  have isLiteral := isLiteral_of_isPlain isPlain
  obtain ⟨literal, back, rfl⟩ := division.exists_literal free (startsLiteral_append isLiteral _)
  obtain ⟨same, ⟨-, longest⟩, later⟩ := isDivision_cons_iff.mp division
  have expected : IsLongest plain ('.' :: tail) := by
    refine isLongest_of_stops isLiteral ?_
    rintro c _ same
    cases same
    refine ⟨fun longer => ?_, by decide⟩
    cases isDigit_of_isPlain isPlain longer
  obtain ⟨rfl, behind⟩ := expected.unique longest same
  cases back with
  | nil => cases behind
  | cons piece back =>
    obtain ⟨-, stands, last⟩ := isDivision_cons_iff.mp later
    cases piece with
    | literal second =>
      cases stands.1.symm.trans (endsName_of_isPlain isPlain before)
    | other c =>
      obtain ⟨rfl, rfl⟩ := List.cons.inj behind
      exact ⟨back, rfl, last⟩

end Divides

/-! ### What a joined literal does to the ones behind it -/

/-- No literal is too large. -/
def IsModerate (pieces : List Piece) : Prop :=
  ∀ literal, .literal literal ∈ pieces → ¬ IsInfinite literal

/-- The digits behind the point of a literal before the pieces behind it: no digit goes on there, and
before another literal they are the fraction of a whole number. -/
structure Trails (fraction : List Char) (rest : List Piece) : Prop where
  all : AllDigits fraction
  some : fraction ≠ []
  ends : ∀ c later, rest = .other c :: later → c.isDigit = false
  whole : ∀ literal later, rest = .literal literal :: later → fraction = ['0']

section Trails

variable {before written fraction literal : List Char} {rest again : List Piece} {piece : Piece}

theorem not_isInfinite {value : Decimal} (reads : readDecimal? literal = some value)
    (small : value.bits < Binary64.infinityBits) : ¬ IsInfinite literal := by
  rintro ⟨other, reads', large⟩
  cases reads.symm.trans reads'
  exact small.ne large

theorem IsModerate.of_cons (moderate : IsModerate (piece :: rest)) : IsModerate rest :=
  fun literal member => moderate literal (List.mem_cons_of_mem _ member)

theorem exists_trails
    (division : IsDivision before (spelled (.literal literal :: rest)) (.literal literal :: rest))
    (finite : ¬ IsInfinite literal) : ∃ n fraction,
      normalText literal = digitsOf n ++ '.' :: fraction ∧ Trails fraction rest := by
  have longest := division.isLongest
  obtain ⟨-, -, later⟩ := isDivision_cons_iff.mp division
  obtain ⟨n, fraction, written, some, all⟩ := isWritten_normalText longest.isLiteral finite
  refine ⟨n, fraction, written, all, some, ?_, ?_⟩
  · rintro c later rfl
    by_contra digit
    have isDigit := Bool.eq_true_of_not_eq_false digit
    exact longest.stops (longest.isLiteral.concat_digit isDigit)
  · rintro second later' rfl
    obtain ⟨-, ⟨free, -⟩, -⟩ := isDivision_cons_iff.mp later
    obtain ⟨digits, rfl⟩ := longest.isLiteral.point_last free
    obtain ⟨m, whole⟩ := normalText_of_point_last longest.isLiteral finite
    rw [written] at whole
    have zero := AllDigits.append_inj (allDigits_digitsOf n) (allDigits_digitsOf m)
      (rfl : '.'.isDigit = false) (by rintro d tail same; cases same; rfl) whole
    exact (List.cons.inj zero.2).2

/-- Where a literal begins, a settled division goes on with a literal that is written. -/
theorem IsDivision.exists_written {text : List Char} (division : IsDivision written text again)
    (free : endsName written = false) (starts : startsLiteral text = true)
    (moderate : IsModerate again) (settled : IsSettled again) :
    ∃ n digits behind, text = digitsOf n ++ '.' :: (digits ++ behind) ∧ digits ≠ [] ∧
      AllDigits digits := by
  obtain ⟨literal, back, rfl⟩ := division.exists_literal free starts
  obtain ⟨rfl, ⟨-, longest⟩, -⟩ := isDivision_cons_iff.mp division
  obtain ⟨normal, -⟩ := settled [] literal back rfl
  have finite := moderate literal List.mem_cons_self
  obtain ⟨n, digits, written, some, all⟩ := isWritten_normalText longest.isLiteral finite
  refine ⟨n, digits, spelled back, ?_, some, all⟩
  rw [Piece.text_literal, ← normal, written, List.append_assoc, List.cons_append]

/-- What is written behind digits that trail begins with a point, if the division is settled. -/
theorem Trails.point (trails : Trails fraction rest)
    (division : IsDivision before (spelled rest) rest) (moderate : IsModerate rest)
    (free : endsName written = false)
    (behind : IsDivision written (fraction ++ (separator rest ++ rendered rest)) again)
    (moderate' : IsModerate again) (settled : IsSettled again) :
    ∃ later c tail, rest = .other '.' :: later ∧ rendered later = c :: tail ∧ c.isDigit = true := by
  have starts : startsLiteral (fraction ++ (separator rest ++ rendered rest)) = true :=
    startsLiteral_append (IsMantissa.whole trails.all trails.some).isLiteral _
  obtain ⟨n, digits, last, same, some, all⟩ := behind.exists_written free starts moderate' settled
  obtain ⟨c, digits, rfl⟩ := List.exists_cons_of_ne_nil some
  have digit := all c List.mem_cons_self
  have seam := fun ends => AllDigits.append_inj (allDigits_digitsOf n) trails.all
    (rfl : '.'.isDigit = false) ends same.symm
  cases rest with
  | nil => cases (seam nofun).2
  | cons piece later =>
    cases piece with
    | other d =>
      cases alone : multiplies (spelled (.other d :: later)) with
      | true =>
        rw [separator_of_multiplies alone] at seam
        cases (seam (by rintro _ _ same; cases same; rfl)).2
      | false =>
        rw [separator_of_not_multiplies alone] at seam
        have follows := (seam (by rintro _ _ same; cases same; exact trails.ends d later rfl)).2
        obtain ⟨rfl, begins⟩ := List.cons.inj follows
        exact ⟨later, c, digits ++ last, rfl, begins.symm, digit⟩
    | literal second =>
      -- the zero behind the point of a whole number would begin a longer number
      have isLiteral := division.isLongest.isLiteral
      have finite := moderate second List.mem_cons_self
      obtain ⟨m, fraction', written, -, -⟩ := isWritten_normalText isLiteral finite
      rw [trails.whole second later rfl, rendered_cons, Piece.written, written,
        separator_of_not_multiplies (multiplies_of_isLiteral isLiteral _)] at same
      have zero : AllDigits ('0' :: digitsOf m) := by
        rintro d (_ | ⟨_, member⟩)
        · rfl
        · exact allDigits_digitsOf m d member
      have longer := AllDigits.append_inj (allDigits_digitsOf n) zero
        (rfl : '.'.isDigit = false) (by rintro _ _ same; cases same; rfl)
        (by simpa using same.symm : digitsOf n ++ '.' :: (c :: digits ++ last) =
          '0' :: digitsOf m ++ '.' :: (fraction' ++ (separator later ++ rendered later)))
      exact absurd longer.1 (digitsOf_ne_zero_cons n m)

/-- **One step of what a joined literal does.** Digits that trail take the point and the number
before the point of the next literal, and leave the digits behind it to trail. -/
theorem Trails.next (trails : Trails fraction rest)
    (division : IsDivision before (spelled rest) rest) (moderate : IsModerate rest)
    (free : endsName written = false)
    (behind : IsDivision written (fraction ++ (separator rest ++ rendered rest)) again)
    (moderate' : IsModerate again) (settled : IsSettled again) :
    ∃ literal later plain fraction' back, rest = .other '.' :: .literal literal :: later ∧
      Trails fraction' later ∧ again = .literal plain :: .other '.' :: back ∧
      IsDivision (written ++ plain ++ ['.'])
        (fraction' ++ (separator later ++ rendered later)) back := by
  obtain ⟨later, c, tail, rfl, begins, digit⟩ :=
    trails.point division moderate free behind moderate' settled
  obtain ⟨-, -, last⟩ := isDivision_cons_iff.mp division
  cases later with
  | nil => cases begins
  | cons piece later =>
    cases piece with
    | other d =>
      cases begins
      obtain ⟨-, named | none, -⟩ := isDivision_cons_iff.mp last
      · rw [Piece.text_other, endsName_concat] at named
        cases named
      · exact absurd ⟨[c], spelled later, rfl, isLiteral_digit digit⟩ none
    | literal literal =>
      obtain ⟨n, fraction', written', trails'⟩ :=
        exists_trails last (moderate literal (by simp))
      have alone : multiplies (spelled (.other '.' :: .literal literal :: later)) = false :=
        multiplies_of_begins (.inr rfl) _
      rw [separator_of_not_multiplies alone] at behind
      have plain : IsPlain (fraction ++ '.' :: digitsOf n) :=
        ⟨fraction, digitsOf n, rfl, trails.some, digitsOf_ne_nil n,
          trails.all.append (allDigits_digitsOf n)⟩
      have joined : fraction ++ ([] ++ rendered (.other '.' :: .literal literal :: later)) =
          (fraction ++ '.' :: digitsOf n) ++
            '.' :: (fraction' ++ (separator later ++ rendered later)) := by
        rw [rendered_cons, rendered_cons, Piece.written, Piece.written, written']
        simp
      rw [joined] at behind
      obtain ⟨back, rfl, next⟩ := behind.exists_plain free plain
      exact ⟨literal, later, _, fraction', back, rfl, trails', rfl, next⟩

/-- Digits that trail are never settled in the end. -/
theorem not_settled_of_trails (trails : Trails fraction rest)
    (division : IsDivision before (spelled rest) rest) (moderate : IsModerate rest)
    (free : endsName written = false)
    (behind : IsDivision written (fraction ++ (separator rest ++ rendered rest)) again)
    (moderate' : IsModerate again) : ¬ IsSettled again := by
  intro settled
  -- a step takes a point and a literal, so the induction is on the number of pieces
  induction size : rest.length using Nat.strong_induction_on
    generalizing before written fraction rest again with
  | _ size ih =>
    obtain ⟨literal, later, plain, fraction', back, rfl, trails', rfl, next⟩ :=
      trails.next division moderate free behind moderate' settled
    obtain ⟨-, -, last⟩ := isDivision_cons_iff.mp division
    obtain ⟨-, -, last⟩ := isDivision_cons_iff.mp last
    refine ih later.length ?_ trails' last moderate.of_cons.of_cons ?_ next
      moderate'.of_cons.of_cons (settled.of_append [.literal plain, .other '.']) rfl
    · rw [← size]
      simp only [List.length_cons]
      omega
    · rw [endsName_concat]
      rfl

/-- Where two pieces are joined, the second normal form is another one. -/
theorem not_settled_of_joins
    (division : IsDivision before (spelled (piece :: rest)) (piece :: rest))
    (linked : Linked before written (piece :: rest)) (moderate : IsModerate (piece :: rest))
    (joins : Joins written piece rest)
    (behind : IsDivision written (rendered (piece :: rest)) again)
    (moderate' : IsModerate again) : ¬ IsSettled again := by
  intro settled
  obtain ⟨-, -, later⟩ := isDivision_cons_iff.mp division
  cases joins with
  | @literals first second rest =>
    obtain ⟨n, fraction, written', trails⟩ :=
      exists_trails division (moderate first List.mem_cons_self)
    obtain ⟨m, fraction', written'', trails'⟩ :=
      exists_trails later (moderate second (by simp))
    have zero := trails.whole second rest rfl
    have alone : multiplies (spelled (.literal second :: rest)) = false :=
      multiplies_of_isLiteral later.isLongest.isLiteral _
    have plain : IsPlain (digitsOf n ++ '.' :: '0' :: digitsOf m) :=
      ⟨digitsOf n, '0' :: digitsOf m, rfl, digitsOf_ne_nil n, List.cons_ne_nil _ _,
        (allDigits_digitsOf n).append
          ((zero ▸ trails.all : AllDigits ['0']).append (allDigits_digitsOf m))⟩
    have joined : rendered (.literal first :: .literal second :: rest) =
        (digitsOf n ++ '.' :: '0' :: digitsOf m) ++
          '.' :: (fraction' ++ (separator rest ++ rendered rest)) := by
      rw [rendered_cons, rendered_cons, Piece.written, Piece.written, written', written'', zero,
        separator_of_not_multiplies alone]
      simp
    rw [joined] at behind
    have free := linked.free first _ rfl
    obtain ⟨back, rfl, next⟩ := behind.exists_plain free plain
    obtain ⟨-, -, last⟩ := isDivision_cons_iff.mp later
    refine not_settled_of_trails trails' last moderate.of_cons.of_cons ?_ next
      moderate'.of_cons.of_cons (settled.of_append [.literal _, .other '.'])
    rw [endsName_concat]
    rfl
  | @point literal rest free changes =>
    obtain ⟨c, tail, begins, digit⟩ := rendered_literal later.isLongest.isLiteral changes rest
    rw [rendered_cons, Piece.written, begins] at behind
    have starts : startsLiteral ('.' :: c :: tail) = true :=
      startsLiteral_append (isLiteral_point_digit digit) tail
    -- a literal that begins with a point is not its own normal form
    obtain ⟨n, digits, last, same, -, -⟩ := behind.exists_written free starts moderate' settled
    obtain ⟨d, front, number⟩ := List.exists_cons_of_ne_nil (digitsOf_ne_nil n)
    rw [number] at same
    have first := allDigits_digitsOf n d (by simp [number])
    rw [← (List.cons.inj same).1] at first
    cases first

end Trails

/-! ### The second pass -/

section Second

variable {before written : List Char} {pieces again : List Piece}

/-- Where pieces run together, the second normal form is another one. -/
theorem not_settled_of_runsTogether (division : IsDivision before (spelled pieces) pieces)
    (linked : Linked before written pieces) (moderate : IsModerate pieces)
    (runs : RunsTogether written pieces) (behind : IsDivision written (rendered pieces) again)
    (moderate' : IsModerate again) : ¬ IsSettled again := by
  induction runs generalizing before again with
  | here joins => exact not_settled_of_joins division linked moderate joins behind moderate'
  | @later written piece rest _ ih =>
    by_cases joins : Joins written piece rest
    · exact not_settled_of_joins division linked moderate joins behind moderate'
    · obtain ⟨-, -, last⟩ := isDivision_cons_iff.mp division
      obtain ⟨back, next, -⟩ := exists_division (written ++ piece.written rest) (rendered rest)
      obtain rfl := behind.unique (division.renewed linked joins next)
      intro settled
      refine ih last (linked.next division joins) moderate.of_cons next ?_ (settled.of_append _)
      exact fun literal member => moderate' literal (List.mem_append_right _ member)

/-- A formula is its own normal form exactly if its division is settled. -/
theorem IsDivision.normalize_eq_iff {formula : String}
    (division : IsDivision [] formula.toList pieces) :
    normalize formula = formula ↔ IsSettled pieces := by
  rw [← rendered_eq_spelled_iff division.respelled, division.spells, ← division.normalizeFrom_eq,
    ← String.toList_inj, normalize, String.toList_ofList]

end Second

/-- **What a second pass does to a normal form.** A formula is divided in one way, and so is its
normal form. A formula is left alone exactly if each of its literals is its own normal form and
stands before nothing that it multiplies; so the second pass changes nothing exactly if the division
of the normal form is settled. The normal form is divided into the rewritten pieces exactly if no two
pieces run together, and then the second pass changes nothing. If pieces run together it changes the
normal form, as long as no literal of the formula or of its normal form is too large. -/
theorem normalize_twice_iff (formula : String) : ∃ pieces again,
    (∀ others, IsDivision [] formula.toList others ↔ others = pieces) ∧
      (∀ others, IsDivision [] (normalize formula).toList others ↔ others = again) ∧
      (normalize formula = formula ↔ IsSettled pieces) ∧
      (normalize (normalize formula) = normalize formula ↔ IsSettled again) ∧
      (again = rewritten pieces ↔ ¬ RunsTogether [] pieces) ∧
      (¬ RunsTogether [] pieces → normalize (normalize formula) = normalize formula) ∧
      (IsModerate pieces → IsModerate again →
        (normalize (normalize formula) = normalize formula ↔ ¬ RunsTogether [] pieces)) := by
  obtain ⟨pieces, division, -⟩ := exists_division [] formula.toList
  obtain ⟨again, division', -⟩ := exists_division [] (normalize formula).toList
  have divided := division.respelled
  have behind : IsDivision [] (rendered pieces) again := by
    rw [← division.normalizeFrom_eq]
    rwa [normalize, String.toList_ofList] at division'
  have apart : again = rewritten pieces ↔ ¬ RunsTogether [] pieces := by
    refine ⟨?_, fun apart => ?_⟩
    · rintro rfl
      exact not_runsTogether_of_isDivision divided behind
    · exact behind.unique (isDivision_rewritten divided (linked_nil pieces) apart)
  have same := division'.normalize_eq_iff
  have kept : ¬ RunsTogether [] pieces → IsSettled again := fun apart' => by
    rw [apart.mpr apart']
    exact isSettled_rewritten divided
  refine ⟨pieces, again, fun _ => division.iff_eq, fun _ => division'.iff_eq,
    division.normalize_eq_iff, same, apart, fun apart => same.mpr (kept apart),
    fun moderate moderate' => same.trans ⟨?_, kept⟩⟩
  intro settled runs
  exact not_settled_of_runsTogether divided (linked_nil pieces) moderate runs behind moderate' settled

/-- Two literals that touch at a point. -/
def touching : List Piece :=
  [.literal ['1', '.'], .literal ['.', '2']]

/-- The first of them with the digits of both, and what is left of the second. -/
def touched : List Piece :=
  [.literal ['1', '.', '0', '0'], .other '.', .literal ['2']]

theorem isDivision_touching : IsDivision [] "1..2".toList touching :=
  .split rfl rfl (.split rfl rfl (isDivision_nil_iff.mpr rfl))

theorem isDivision_touched : IsDivision [] "1.00.2".toList touched :=
  .split rfl rfl (.passed rfl (.split rfl rfl (isDivision_nil_iff.mpr rfl)))

theorem normalize_touching : normalize "1..2" = "1.00.2" := by
  rw [normalize, isDivision_touching.normalizeFrom_eq]
  decide +kernel

theorem normalize_twice_iff_touching :
    IsModerate touching ∧ IsModerate touched ∧ RunsTogether [] touching ∧
      normalize (normalize "1..2") ≠ normalize "1..2" ∧
      ¬ RunsTogether [] [.literal ['2'], .other 'x'] ∧
      normalize (normalize "2x") = normalize "2x" := by
  have small : ∀ text, text ∈ [['1', '.'], ['.', '2'], ['1', '.', '0', '0'], ['2']] →
      ¬ IsInfinite text := by
    intro text member
    simp only [List.mem_cons, List.not_mem_nil, or_false] at member
    rcases member with rfl | rfl | rfl | rfl
    · exact not_isInfinite rfl (by decide +kernel)
    · exact not_isInfinite rfl (by decide +kernel)
    · exact not_isInfinite rfl (by decide +kernel)
    · exact not_isInfinite rfl (by decide +kernel)
  have moderate : IsModerate touching := by
    intro literal member
    refine small literal ?_
    simp only [touching, List.mem_cons, Piece.literal.injEq, List.not_mem_nil, or_false] at member
    rcases member with rfl | rfl
    · simp
    · simp
  have moderate' : IsModerate touched := by
    intro literal member
    refine small literal ?_
    simp only [touched, List.mem_cons, Piece.literal.injEq, reduceCtorEq, false_or,
      List.not_mem_nil, or_false] at member
    rcases member with rfl | rfl
    · simp
    · simp
  have runs : RunsTogether [] touching :=
    .here (.literals fun both => moderate _ List.mem_cons_self both.1)
  have apart : ¬ RunsTogether [] [.literal ['2'], .other 'x'] := by
    rintro (⟨⟨⟩⟩ | ⟨⟨⟨⟩⟩ | ⟨⟨⟩⟩⟩)
  obtain ⟨pieces, again, only, only', -, -, -, -, exact⟩ := normalize_twice_iff "1..2"
  rw [normalize_touching] at only'
  cases (only _).mp isDivision_touching
  cases (only' _).mp isDivision_touched
  obtain ⟨others, -, only, -, -, -, -, kept, -⟩ := normalize_twice_iff "2x"
  have division : IsDivision [] "2x".toList [.literal ['2'], .other 'x'] :=
    .split rfl rfl (.passed rfl (isDivision_nil_iff.mpr rfl))
  cases (only _).mp division
  exact ⟨moderate, moderate', runs, fun same => (exact moderate moderate').mp same runs, apart,
    kept apart⟩

/-- The digits behind the first point and those before the second one become one fraction. -/
theorem normalize_twice_differs :
    normalize "1..2" = "1.00.2" ∧ normalize (normalize "1..2") = "1.0.2.0" := by
  refine ⟨normalize_touching, ?_⟩
  rw [normalize_touching, normalize, isDivision_touched.normalizeFrom_eq]
  decide +kernel

end DeviceMapping.Literal
