/-
**Which whole numbers become constants.**

Pieces become tokens from left to right, some of them together with what follows. `Reaches` says
where the tokens begin; a word that ends with the mark of an exponent is never taken along, so a
token begins there (`reaches_word`).

* `Cut`: two words around a sign, of which the second is a whole number and which spell no number
  together.
* `whole_token_iff`: the tokens of a normal form have a whole constant exactly if there is a cut.
* `unknown_name`: then there is a name before a sign that no expression knows.
-/

import DeviceMapping.Formula.Evaluation
import DeviceMapping.Proofs.Formula.Scan

namespace DeviceMapping.Formula.Token

open Literal (IsMantissa)

/-! ### One token -/

/-- How many of the following pieces belong to the token of a piece. -/
def taken : Piece → List Piece → Nat
  | .word word, rest => (ofWord word rest).2
  | .mark c, rest => ((ofMark? c rest).map Prod.snd).getD 0
  | _, _ => 0

/-- The token of a piece; a blank has none. -/
def first? : Piece → List Piece → Option Token
  | .blank, _ => none
  | .quoted text, _ => some (.constant (.text text))
  | .word word, rest => some (ofWord word rest).1
  | .mark c, rest => (ofMark? c rest).map Prod.fst

theorem ofPieces?_eq_drop (n : Nat) (pieces : List Piece) :
    ofPieces? n pieces = ofPieces? 0 (pieces.drop n) := by
  induction n generalizing pieces with
  | zero => rfl
  | succ n ih =>
    cases pieces with
    | nil => rfl
    | cons piece rest => exact ih rest

/-- The tokens are that of the first piece and those of the pieces behind it. -/
theorem ofPieces?_cons {piece : Piece} {rest : List Piece} {tokens : List Token}
    (reads : ofPieces? 0 (piece :: rest) = some tokens) : ∃ later,
      ofPieces? 0 (rest.drop (taken piece rest)) = some later ∧
        tokens = (first? piece rest).toList ++ later := by
  cases piece with
  | blank => exact ⟨tokens, reads, rfl⟩
  | quoted text =>
    obtain ⟨later, reads', rfl⟩ := Option.map_eq_some_iff.mp reads
    exact ⟨later, reads', rfl⟩
  | word word =>
    obtain ⟨later, reads', rfl⟩ := Option.map_eq_some_iff.mp reads
    rw [ofPieces?_eq_drop] at reads'
    exact ⟨later, reads', rfl⟩
  | mark c =>
    obtain ⟨token, isMark, behind⟩ := Option.bind_eq_some_iff.mp reads
    obtain ⟨later, reads', rfl⟩ := Option.map_eq_some_iff.mp behind
    rw [ofPieces?_eq_drop] at reads'
    simp only [taken, first?, isMark]
    exact ⟨later, reads', rfl⟩

/-! ### Where tokens begin -/

/-- Reading the pieces comes to a token that begins with the second pieces. -/
inductive Reaches : List Piece → List Piece → Prop
  | here (pieces : List Piece) : Reaches pieces pieces
  | later {piece : Piece} {rest pieces : List Piece}
      (reaches : Reaches (rest.drop (taken piece rest)) pieces) : Reaches (piece :: rest) pieces

section Reaches

variable {pieces suffix other : List Piece} {tokens : List Token}

theorem Reaches.isSuffix (reaches : Reaches pieces suffix) : suffix <:+ pieces := by
  induction reaches with
  | here => exact List.suffix_refl _
  | later reaches ih => exact (ih.trans (List.drop_suffix _ _)).trans (List.suffix_cons _ _)

/-- Of two places that are reached the one with less behind it is reached from the other. -/
theorem Reaches.of_length_le (reaches : Reaches pieces suffix) (reaches' : Reaches pieces other)
    (shorter : other.length ≤ suffix.length) : Reaches suffix other := by
  induction reaches with
  | here => exact reaches'
  | later reaches ih =>
    cases reaches' with
    | here =>
      have short := reaches.isSuffix.length_le
      rw [List.length_drop] at short
      rw [List.length_cons] at shorter
      omega
    | later reaches' => exact ih reaches' shorter

/-- The tokens from a place on are the last ones of all. -/
theorem Reaches.divides (reaches : Reaches pieces suffix)
    (reads : ofPieces? 0 pieces = some tokens) :
    ∃ earlier later, tokens = earlier ++ later ∧ ofPieces? 0 suffix = some later := by
  induction reaches generalizing tokens with
  | here => exact ⟨[], tokens, rfl, reads⟩
  | later reaches ih =>
    obtain ⟨behind, reads', rfl⟩ := ofPieces?_cons reads
    obtain ⟨earlier, later, rfl, reads''⟩ := ih reads'
    exact ⟨_ ++ earlier, later, (List.append_assoc _ _ _).symm, reads''⟩

/-- Every token begins somewhere. -/
theorem reaches_of_mem {token : Token} (reads : ofPieces? 0 pieces = some tokens)
    (member : token ∈ tokens) : ∃ piece rest, Reaches pieces (piece :: rest) ∧
      first? piece rest = some token := by
  induction size : pieces.length using Nat.strong_induction_on generalizing pieces tokens with
  | _ n ih =>
    cases pieces with
    | nil =>
      cases reads
      cases member
    | cons piece rest =>
      obtain ⟨later, reads', rfl⟩ := ofPieces?_cons reads
      rcases List.mem_append.mp member with inFirst | inLater
      · exact ⟨piece, rest, .here _, Option.mem_toList.mp inFirst⟩
      · have fewer : (rest.drop (taken piece rest)).length < n := by
          rw [← size, List.length_drop, List.length_cons]
          omega
        obtain ⟨other, after, reaches, isFirst⟩ := ih _ fewer reads' inLater rfl
        exact ⟨other, after, .later reaches, isFirst⟩

/-! ### Words that are not taken along -/

theorem mark_of_nextIs {c : Char} {rest : List Piece} (next : nextIs c rest = true) :
    ∃ after, rest = .mark c :: after := by
  unfold nextIs at next
  split at next
  · rename_i after
    exact ⟨after, by rw [beq_iff_eq.mp next]⟩
  · cases next

/-- The pieces are marks. -/
def AllMarks (pieces : List Piece) : Prop :=
  ∀ piece ∈ pieces, ∃ c, piece = .mark c

/-- A token that is no constant and takes along marks only. -/
structure OfMarks (rest : List Piece) (token : Token × Nat) : Prop where
  allMarks : AllMarks (rest.take token.2)
  noConstant : ∀ value, token.1 ≠ .constant value

theorem ofMarks_single {token : Token} (noConstant : ∀ value, token ≠ .constant value)
    (rest : List Piece) : OfMarks rest (token, 0) :=
  ⟨by simp [AllMarks], noConstant⟩

theorem ofMarks_extended {alone together : Token} (noConstant : ∀ value, alone ≠ .constant value)
    (noConstant' : ∀ value, together ≠ .constant value) (rest : List Piece) :
    OfMarks rest (extended alone together rest) := by
  unfold extended
  split
  · rename_i next
    obtain ⟨after, rfl⟩ := mark_of_nextIs next
    exact ⟨by simp [AllMarks], noConstant'⟩
  · exact ofMarks_single noConstant rest

theorem ofMarks_doubled? {c : Char} {operator : BinaryOperator} {rest : List Piece}
    {token : Token × Nat} (isToken : doubled? c operator rest = some token) :
    OfMarks rest token := by
  unfold doubled? at isToken
  split at isToken
  · rename_i next
    obtain ⟨after, rfl⟩ := mark_of_nextIs next
    split at isToken
    · rename_i further
      obtain ⟨last, rfl⟩ := mark_of_nextIs further
      cases isToken
      exact ⟨by simp [AllMarks], by simp⟩
    · cases isToken
      exact ⟨by simp [AllMarks], by simp⟩
  · cases isToken

/-- The token of a mark is an operator or a separator, and marks only belong to it. -/
theorem ofMarks_ofMark? {c : Char} {rest : List Piece} {token : Token × Nat}
    (isToken : ofMark? c rest = some token) : OfMarks rest token := by
  unfold ofMark? at isToken
  split at isToken
  · cases isToken
    exact ofMarks_extended (by simp) (by simp) rest
  · split at isToken
    iterate 4
      · cases isToken
        exact ofMarks_single (by simp) rest
    iterate 4
      · cases isToken
        exact ofMarks_extended (by simp) (by simp) rest
    · exact ofMarks_doubled? isToken
    · exact ofMarks_doubled? isToken
    · cases isToken

/-- What the token of a word is: a constant, a number together with what follows, or a name. -/
inductive WordToken (word : List Char) (rest : List Piece) : Token × Nat → Prop
  | constant {value : Value} (spells : constant? word = some value) :
      WordToken word rest (.constant value, 0)
  | joined {sign : Char} {next : List Char} {after : List Piece} {value : Float}
      (none : constant? word = none) (same : rest = .mark sign :: .word next :: after)
      (spells : readFloat? (word ++ sign :: next) = some value) :
      WordToken word rest (.constant (.float value), 2)
  | name (none : constant? word = none)
      (apart : ∀ sign next after, rest = .mark sign :: .word next :: after →
        sign = '+' ∨ sign = '-' → readFloat? (word ++ sign :: next) = Option.none) :
      WordToken word rest (.name (String.ofList word), 0)

theorem wordToken_ofWord (word : List Char) (rest : List Piece) :
    WordToken word rest (ofWord word rest) := by
  unfold ofWord
  split
  · rename_i value spells
    exact .constant spells
  · rename_i none
    dsimp only
    split
    · rename_i value joined
      split at joined
      · rename_i sign next after
        split at joined
        · exact .joined none rfl joined
        · cases joined
      · cases joined
    · rename_i apart
      refine .name none ?_
      rintro sign next after rfl isSign
      simpa [isSign] using apart

/-- A token takes along no word that ends with the mark of an exponent. -/
theorem taken_le {piece : Piece} {between newer : List Piece} {text : List Char} {mark : Char}
    (isMark : mark = 'e' ∨ mark = 'E') :
    taken piece (between ++ .word (text ++ [mark]) :: newer) ≤ between.length := by
  cases piece with
  | blank => exact Nat.zero_le _
  | quoted quotation => exact Nat.zero_le _
  | mark c =>
    by_contra more
    cases isToken : ofMark? c (between ++ .word (text ++ [mark]) :: newer) with
    | none => simp [taken, isToken] at more
    | some token =>
      have length : between.length < token.2 := by simpa [taken, isToken] using more
      have member : .word (text ++ [mark]) ∈
          (between ++ .word (text ++ [mark]) :: newer).take token.2 := by
        obtain ⟨n, is⟩ := Nat.exists_eq_add_of_lt length
        simp [is, List.take_append, Nat.add_assoc]
      obtain ⟨d, same⟩ := (ofMarks_ofMark? isToken).allMarks _ member
      cases same
  | word word =>
    have isToken := wordToken_ofWord word (between ++ .word (text ++ [mark]) :: newer)
    show (ofWord word _).2 ≤ _
    generalize ofWord word _ = token at isToken ⊢
    cases isToken with
    | constant spells => exact Nat.zero_le _
    | name none apart => exact Nat.zero_le _
    | @joined sign next after value none same joined =>
      -- the word would be the second one of the number, but no number ends with the mark
      by_contra short
      match between, short with
      | [], _ => cases same
      | [other], _ =>
        cases same
        have divided : word ++ sign :: (text ++ [mark]) = (word ++ sign :: text) ++ [mark] := by
          simp
        rw [divided, readFloat?_mark _ isMark] at joined
        cases joined
      | first :: second :: others, short => simp at short

/-- A word that ends with the mark of an exponent begins a token. -/
theorem reaches_word {older newer : List Piece} {text : List Char} {mark : Char}
    (isMark : mark = 'e' ∨ mark = 'E') :
    Reaches (older ++ .word (text ++ [mark]) :: newer) (.word (text ++ [mark]) :: newer) := by
  induction size : older.length using Nat.strong_induction_on generalizing older with
  | _ n ih =>
    cases older with
    | nil => exact .here _
    | cons piece between =>
      have few := @taken_le piece between newer text mark isMark
      rw [List.cons_append]
      refine .later ?_
      rw [List.drop_append_of_le_length few]
      refine ih _ ?_ rfl
      rw [← size, List.length_drop, List.length_cons]
      omega

end Reaches

/-! ### Cuts -/

/-- A word, a sign and a whole number stand together and spell no number. -/
structure Cut (pieces : List Piece) (front : List Char) (sign : Char) (back : List Char) :
    Prop where
  stand : ∃ older newer, pieces = older ++ .word front :: .mark sign :: .word back :: newer
  isSign : sign = '+' ∨ sign = '-'
  isWhole : ∃ value, wholeNumber? back = some value
  apart : readFloat? (front ++ sign :: back) = none

section Parts

variable {source : List Literal.Piece} {front back : List Char} {sign : Char}

/-- The first part ends with a digit or a point and the mark of an exponent. -/
theorem Parts.ends (parts : Parts source front sign back) : ∃ text last mark,
    front = text ++ [last] ++ [mark] ∧ (last.isDigit = true ∨ last = '.') ∧
      (mark = 'e' ∨ mark = 'E') := by
  obtain ⟨isMantissa, isMark, -, -, -⟩ := parts
  rename_i start mantissa digits more mark
  obtain ⟨begins, last, rfl, ends⟩ := isMantissa.last
  exact ⟨start ++ begins, last, mark, by simp, ends, isMark⟩

theorem Parts.isSign (parts : Parts source front sign back) : sign = '+' ∨ sign = '-' := by
  obtain ⟨-, -, isSign, -, -⟩ := parts
  exact isSign

/-- No expression knows such a name. -/
theorem Parts.unknown (parts : Parts source front sign back) (x : Float) :
    knownName? x (String.ofList front) = none := by
  obtain ⟨text, last, mark, rfl, isLast, isMark⟩ := parts.ends
  have other : ∀ word : List Char, word.length < 2 ∨ word.getLast? = some 'i' →
      String.ofList (text ++ [last] ++ [mark]) ≠ String.ofList word := by
    rintro word differs same
    have same := String.ofList_inj.mp same
    subst same
    rcases differs with short | ends
    · simp at short
    · rcases isMark with rfl | rfl
      · simp at ends
      · simp at ends
  unfold knownName?
  split
  · rename_i same
    exact absurd same (other ['x'] (by decide))
  · rename_i same
    exact absurd same (other ['p', 'i'] (by decide))
  · rename_i same
    exact absurd same (other ['e'] (by decide))
  · rfl

/-- The first part is a name, or hexadecimal. -/
theorem Parts.constant? (parts : Parts source front sign back) : constant? front = none ∨
    (∃ value, wholeNumber? front = some value) ∧ ∃ digits, front = '0' :: 'x' :: digits := by
  obtain ⟨text, last, mark, rfl, isLast, isMark⟩ := parts.ends
  unfold Token.constant?
  split
  · rename_i value spells
    refine .inr ⟨⟨value, spells⟩, ?_⟩
    rcases cases_of_wholeNumber? spells with ⟨all, -⟩ | ⟨digits, same, -⟩
    · have digit := all mark (by simp)
      rcases isMark with rfl | rfl
      · cases digit
      · cases digit
    · exact ⟨digits, same⟩
  · left
    have number := readFloat?_mark (text ++ [last]) isMark
    have noTruth : ∀ word : List Char, word.reverse[1]? = some 'u' ∨ word.reverse[1]? = some 's' →
        text ++ [last] ++ [mark] ≠ word := by
      rintro word second rfl
      simp at second
      rcases second with rfl | rfl
      · rcases isLast with digit | point
        · cases digit
        · cases point
      · rcases isLast with digit | point
        · cases digit
        · cases point
    rw [number]
    simp only [noTruth "true".toList (by decide), noTruth "false".toList (by decide), if_false]

end Parts

section Cuts

variable {source : List Literal.Piece} {pieces older newer : List Piece} {tokens : List Token}
  {front back : List Char} {sign : Char}

/-- Every whole number among the pieces is the rest of a literal that was cut. -/
theorem Accounted.parts (accounted : Accounted source pieces.reverse)
    (same : pieces = older ++ .word back :: newer) {value : Int}
    (isWhole : wholeNumber? back = some value) : ∃ earlier front sign,
      older = earlier ++ [.word front, .mark sign] ∧ Parts source front sign back := by
  have reversed : pieces.reverse = newer.reverse ++ .word back :: older.reverse := by simp [same]
  rcases accounted _ back _ reversed with never | ⟨front, sign, first, behind, parts⟩
  · have none := never []
    rw [List.append_nil, isWhole] at none
    cases none
  · refine ⟨first.reverse, front, sign, ?_, parts⟩
    rw [← List.reverse_reverse older, behind]
    simp

/-- A cut goes through a literal. -/
theorem Cut.parts (accounted : Accounted source pieces.reverse) (cut : Cut pieces front sign back) :
    Parts source front sign back := by
  obtain ⟨older, newer, same⟩ := cut.stand
  obtain ⟨value, isWhole⟩ := cut.isWhole
  have same' : pieces = (older ++ [.word front, .mark sign]) ++ .word back :: newer := by
    simp [same]
  obtain ⟨earlier, front', sign', behind, parts⟩ := accounted.parts same' isWhole
  obtain ⟨-, ends⟩ := List.append_inj' behind rfl
  cases ends
  exact parts

/-- Where a cut is reached the tokens are that of the first word, a sign and a whole constant. -/
theorem tokens_at_cut {value : Int} (isSign : sign = '+' ∨ sign = '-')
    (isWhole : wholeNumber? back = some value) (apart : readFloat? (front ++ sign :: back) = none)
    (reads : ofPieces? 0 (.word front :: .mark sign :: .word back :: newer) = some tokens) :
    ∃ first operator later,
      tokens = first :: .binary operator :: .constant (.whole value) :: later ∧
        (constant? front = none → first = .name (String.ofList front)) := by
  obtain ⟨first, alone, isName⟩ : ∃ first,
      ofWord front (.mark sign :: .word back :: newer) = (first, 0) ∧
        (constant? front = none → first = .name (String.ofList front)) := by
    have isToken := wordToken_ofWord front (.mark sign :: .word back :: newer)
    generalize ofWord front _ = token at isToken ⊢
    cases isToken with
    | @constant value spells => exact ⟨_, rfl, fun none => by rw [spells] at none; cases none⟩
    | joined none same joined =>
      cases same
      rw [apart] at joined
      cases joined
    | name none _ => exact ⟨_, rfl, fun _ => rfl⟩
  obtain ⟨operator, isMark⟩ : ∃ operator,
      ofMark? sign (.word back :: newer) = some (.binary operator, 0) := by
    rcases isSign with rfl | rfl
    · exact ⟨.add, rfl⟩
    · exact ⟨.subtract, rfl⟩
  have last : ofWord back newer = (.constant (.whole value), 0) := by
    simp only [ofWord, constant?, isWhole]
  simp only [ofPieces?, alone, isMark, last, Option.bind_some, Option.map_map] at reads
  obtain ⟨later, -, rfl⟩ := Option.map_eq_some_iff.mp reads
  exact ⟨first, operator, later, rfl, isName⟩

/-- The first word of a cut begins a token. -/
theorem Cut.divides (accounted : Accounted source pieces.reverse) (cut : Cut pieces front sign back)
    (reads : ofPieces? 0 pieces = some tokens) : ∃ earlier first operator value later,
      tokens = earlier ++ first :: .binary operator :: .constant (.whole value) :: later ∧
        (constant? front = none → first = .name (String.ofList front)) := by
  obtain ⟨text, last, mark, ends, -, isMark⟩ := (cut.parts accounted).ends
  obtain ⟨older, newer, same⟩ := cut.stand
  obtain ⟨value, isWhole⟩ := cut.isWhole
  have reaches : Reaches pieces (.word front :: .mark sign :: .word back :: newer) := by
    rw [same, ends]
    exact reaches_word isMark
  obtain ⟨earlier, behind, rfl, reads'⟩ := reaches.divides reads
  obtain ⟨first, operator, later, rfl, isName⟩ := tokens_at_cut cut.isSign isWhole cut.apart reads'
  exact ⟨earlier, first, operator, value, later, rfl, isName⟩

theorem wholeNumber?_of_constant? {word : List Char} {value : Int}
    (spells : constant? word = some (.whole value)) : wholeNumber? word = some value := by
  unfold constant? at spells
  split at spells
  · rename_i whole
    cases spells
    exact whole
  · split at spells
    · cases spells
    · split at spells
      · cases spells
      · split at spells
        · cases spells
        · cases spells

/-- Only whole numbers become whole constants. -/
theorem word_of_whole {piece : Piece} {rest : List Piece} {value : Int}
    (isFirst : first? piece rest = some (.constant (.whole value))) :
    ∃ back, piece = .word back ∧ wholeNumber? back = some value := by
  cases piece with
  | blank => cases isFirst
  | quoted text => cases isFirst
  | mark c =>
    obtain ⟨token, isToken, same⟩ := Option.map_eq_some_iff.mp isFirst
    exact absurd same ((ofMarks_ofMark? isToken).noConstant _)
  | word back =>
    refine ⟨back, rfl, ?_⟩
    have isToken := wordToken_ofWord back rest
    have same := Option.some.inj isFirst
    generalize ofWord back rest = token at isToken same
    cases isToken with
    | constant spells =>
      cases same
      exact wholeNumber?_of_constant? spells
    | joined => cases same
    | name => cases same

/-- Before a whole constant no number goes on over its sign. -/
theorem apart_of_reaches {earlier : List Piece} (parts : Parts source front sign back)
    (reaches : Reaches (earlier ++ .word front :: .mark sign :: .word back :: newer)
      (.word back :: newer)) : readFloat? (front ++ sign :: back) = none := by
  obtain ⟨text, last, mark, ends, -, isMark⟩ := parts.ends
  have atFront : Reaches (earlier ++ .word front :: .mark sign :: .word back :: newer)
      (.word front :: .mark sign :: .word back :: newer) := by
    rw [ends]
    exact reaches_word isMark
  -- both words begin tokens, so the first has not taken the second along
  have onward := atFront.of_length_le reaches (by simp)
  have isToken := wordToken_ofWord front (.mark sign :: .word back :: newer)
  cases onward with
  | later onward =>
    have alone := onward.isSuffix.length_le
    rw [show taken (.word front) (.mark sign :: .word back :: newer) = (ofWord front _).2 from rfl]
      at alone
    generalize ofWord front _ = token at isToken alone
    cases isToken with
    | name none apart => exact apart sign back newer rfl parts.isSign
    | joined => simp at alone
    | constant spells =>
      rcases parts.constant? with none | ⟨-, digits, same⟩
      · rw [none] at spells
        cases spells
      · rw [same]
        exact readFloat?_hex _

/-- **Whole constants are cuts.** -/
theorem whole_token_iff (accounted : Accounted source pieces.reverse)
    (reads : ofPieces? 0 pieces = some tokens) :
    (∃ value, .constant (.whole value) ∈ tokens) ↔
      ∃ front sign back, Cut pieces front sign back := by
  constructor
  · rintro ⟨value, member⟩
    obtain ⟨piece, newer, reaches, isFirst⟩ := reaches_of_mem reads member
    obtain ⟨back, rfl, isWhole⟩ := word_of_whole isFirst
    obtain ⟨older, same⟩ := reaches.isSuffix
    obtain ⟨earlier, front, sign, rfl, parts⟩ := accounted.parts same.symm isWhole
    have together : pieces = earlier ++ .word front :: .mark sign :: .word back :: newer := by
      simp [← same]
    rw [together] at reaches
    exact ⟨front, sign, back, ⟨earlier, newer, together⟩, parts.isSign, ⟨value, isWhole⟩,
      apart_of_reaches parts reaches⟩
  · rintro ⟨front, sign, back, cut⟩
    obtain ⟨earlier, first, operator, value, later, rfl, -⟩ := cut.divides accounted reads
    exact ⟨value, by simp⟩

/-- Where there is a cut there is one whose first word is a name. -/
theorem exists_name (accounted : Accounted source pieces.reverse)
    (cut : Cut pieces front sign back) :
    ∃ front sign back, Cut pieces front sign back ∧ constant? front = none := by
  obtain ⟨older, newer, same⟩ := cut.stand
  induction size : older.length using Nat.strong_induction_on
    generalizing front sign back older newer with
  | _ n ih =>
    rcases (cut.parts accounted).constant? with none | ⟨⟨value, isWhole⟩, -⟩
    · exact ⟨front, sign, back, cut, none⟩
    · -- the first word is a whole number, so it is the rest of an earlier cut
      obtain ⟨earlier, front', sign', rfl, parts⟩ := accounted.parts same isWhole
      have same' : pieces = earlier ++ .word front' :: .mark sign' :: .word front ::
          .mark sign :: .word back :: newer := by
        simp [same]
      obtain ⟨text, last, mark, ends, -, isMark⟩ := (cut.parts accounted).ends
      have apart : readFloat? (front' ++ sign' :: front) = none := by
        have ending : front' ++ sign' :: front =
            (front' ++ sign' :: (text ++ [last])) ++ [mark] := by
          simp [ends]
        rw [ending]
        exact readFloat?_mark _ isMark
      have cut' : Cut pieces front' sign' front :=
        ⟨⟨earlier, _, same'⟩, parts.isSign, ⟨value, isWhole⟩, apart⟩
      refine ih earlier.length ?_ cut' earlier _ same' rfl
      rw [← size, List.length_append]
      simp

/-- **Names that no expression knows.** Where there is a cut the tokens have such a name before a
sign. -/
theorem unknown_name (accounted : Accounted source pieces.reverse)
    (reads : ofPieces? 0 pieces = some tokens) (cut : Cut pieces front sign back) :
    ∃ earlier name operator later, tokens = earlier ++ .name name :: .binary operator :: later ∧
      ∀ x, knownName? x name = none := by
  obtain ⟨front, sign, back, cut, isName⟩ := exists_name accounted cut
  obtain ⟨earlier, first, operator, value, later, rfl, only⟩ := cut.divides accounted reads
  rw [only isName]
  exact ⟨earlier, _, operator, _, rfl, (cut.parts accounted).unknown⟩

end Cuts

end DeviceMapping.Formula.Token
