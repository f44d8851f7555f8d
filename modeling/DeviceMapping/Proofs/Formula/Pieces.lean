/-
**Where whole numbers stand in a normal form.**

The normal form of a formula is cut into pieces once more by the evaluator. A word in it that spells
a whole number would begin with a digit; where no name goes on a digit begins a literal, and every
literal of finite value has got a point. The one way to a whole number is a literal that was left
alone because it is too large and has a sign in its exponent, for it is cut there (`Parts`).

* `Accounted`: of the pieces so far every word never becomes a whole number or is the rest of a
  literal that was cut.
* `accounted_plain`, `accounted_infinite`: the pieces stay so over a literal in its normal form.
-/

import DeviceMapping.Proofs.Formula.Normal
import DeviceMapping.Proofs.Formula.Word

namespace DeviceMapping.Formula.Token

open Literal (AllDigits IsLiteral IsMantissa continuesName)

/-! ### Pieces that hold no whole number -/

/-- A literal of the source that is too large was cut at the sign of its exponent, and its two parts
are the end of the word before the sign and the beginning of the word behind it. -/
inductive Parts (source : List Literal.Piece) : List Char → Char → List Char → Prop
  | cut {start mantissa digits more : List Char} {mark sign : Char}
      (isMantissa : IsMantissa mantissa) (isMark : mark = 'e' ∨ mark = 'E')
      (isSign : sign = '+' ∨ sign = '-')
      (member : .literal (mantissa ++ mark :: sign :: digits) ∈ source)
      (infinite : IsInfinite (mantissa ++ mark :: sign :: digits)) :
      Parts source (start ++ mantissa ++ [mark]) sign (digits ++ more)

/-- Behind the older pieces, newest first, the word begins with the rest of a literal that was
cut. -/
def RestOf (source : List Literal.Piece) (older : List Piece) (word : List Char) : Prop :=
  ∃ front sign first, older = .mark sign :: .word front :: first ∧ Parts source front sign word

theorem RestOf.append {source : List Literal.Piece} {older : List Piece} {word : List Char}
    (rest : RestOf source older word) (more : List Char) : RestOf source older (word ++ more) := by
  obtain ⟨front, sign, first, same, parts⟩ := rest
  refine ⟨front, sign, first, same, ?_⟩
  obtain ⟨isMantissa, isMark, isSign, member, infinite⟩ := parts
  rw [List.append_assoc _ _ more]
  exact .cut isMantissa isMark isSign member infinite

/-- Of the pieces, newest first, every word never becomes a whole number or is the rest of a literal
that was cut. -/
def Accounted (source : List Literal.Piece) (pieces : List Piece) : Prop :=
  ∀ newer word older, pieces = newer ++ .word word :: older →
    NeverWhole word ∨ RestOf source older word

section Accounted

variable {source : List Literal.Piece} {pieces : List Piece} {word : List Char}

theorem accounted_nil : Accounted source [] := by
  intro newer word older same
  simp at same

theorem Accounted.tail {piece : Piece} (accounted : Accounted source (piece :: pieces)) :
    Accounted source pieces := by
  rintro newer word older rfl
  exact accounted (piece :: newer) word older rfl

theorem Accounted.cons {piece : Piece} (accounted : Accounted source pieces)
    (new : ∀ word, piece = .word word → NeverWhole word ∨ RestOf source pieces word) :
    Accounted source (piece :: pieces) := by
  intro newer word older same
  cases newer with
  | nil =>
    obtain ⟨head, rfl⟩ := List.cons.inj same
    exact new word head
  | cons first newer => exact accounted newer word older (List.cons.inj same).2

end Accounted

/-! ### One more character -/

/-- The character becomes part of a word. -/
def isWordChar (c : Char) : Bool :=
  !isMark c && !Text.isBlank c

/-- The word that is still open, or nothing. -/
def openWord : List Piece → List Char
  | .word word :: _ => word
  | _ => []

/-- The pieces before the word that is still open. -/
def closed : List Piece → List Piece
  | .word _ :: older => older
  | pieces => pieces

/-- The pieces, newest first, with the characters of a text. -/
def addText (text : List Char) (pieces : List Piece) : List Piece :=
  text.foldl (fun pieces c => addChar c pieces) pieces

theorem addText_cons (c : Char) (text : List Char) (pieces : List Piece) :
    addText (c :: text) pieces = addText text (addChar c pieces) := rfl

theorem addText_append (first second : List Char) (pieces : List Piece) :
    addText (first ++ second) pieces = addText second (addText first pieces) :=
  List.foldl_append

theorem addChar_sign {sign : Char} (isSign : sign = '+' ∨ sign = '-') (pieces : List Piece) :
    addChar sign pieces = .mark sign :: pieces := by
  rcases isSign with rfl | rfl
  · rfl
  · rfl

theorem addChar_of_isWordChar {c : Char} (isWord : isWordChar c = true) (pieces : List Piece) :
    addChar c pieces = .word (openWord pieces ++ [c]) :: closed pieces := by
  obtain ⟨noMark, noBlank⟩ : isMark c = false ∧ Text.isBlank c = false := by
    simpa [isWordChar] using isWord
  unfold addChar
  simp only [noMark, noBlank, Bool.false_eq_true, if_false]
  split
  · rfl
  · rename_i other
    cases pieces with
    | nil => rfl
    | cons piece older =>
      cases piece with
      | word characters => exact absurd rfl (other characters older)
      | _ => rfl

theorem addText_of_isWordChar {text : List Char} (some : text ≠ [])
    (all : ∀ c ∈ text, isWordChar c = true) (pieces : List Piece) :
    addText text pieces = .word (openWord pieces ++ text) :: closed pieces := by
  induction text generalizing pieces with
  | nil => exact absurd rfl some
  | cons c rest ih =>
    have first := addChar_of_isWordChar (all c List.mem_cons_self) pieces
    rw [addText_cons, first]
    by_cases last : rest = []
    · rw [last]
      rfl
    · rw [ih last fun d member => all d (List.mem_cons_of_mem _ member)]
      simp [openWord, closed]

section Extension

variable {source : List Literal.Piece} {pieces : List Piece}

/-- A word that goes on stays accounted for, and a new one is if it begins rightly. -/
theorem Accounted.extended (accounted : Accounted source pieces) {text : List Char}
    (fresh : openWord pieces = [] → NeverWhole text) :
    Accounted source (.word (openWord pieces ++ text) :: closed pieces) := by
  have closedToo : Accounted source (closed pieces) := by
    unfold closed
    split
    · exact accounted.tail
    · exact accounted
  refine closedToo.cons fun word same => ?_
  cases same
  by_cases none : openWord pieces = []
  · rw [none]
    exact .inl (fresh none)
  · obtain ⟨word, older, rfl⟩ : ∃ word older, pieces = .word word :: older := by
      unfold openWord at none
      split at none
      · exact ⟨_, _, rfl⟩
      · exact absurd rfl none
    rcases accounted [] word older rfl with never | rest
    · exact .inl (never.append text)
    · exact .inr (rest.append text)

end Extension

/-! ### One more item of the normal form -/

theorem continuesName_of_isMark {c : Char} (mark : isMark c = true) : continuesName c = false := by
  have each : ("+-*/%^(),;=!><&|".toList.all fun d => !continuesName d) = true := by
    decide +kernel
  simpa using List.all_eq_true.mp each c (List.contains_iff_mem.mp mark)

/-- The code points of the characters that are white space. -/
def blankCodes : List Nat :=
  [9, 10, 11, 12, 13, 0x20, 0x85, 0xA0, 0x1680, 0x2000, 0x2001, 0x2002, 0x2003, 0x2004, 0x2005,
    0x2006, 0x2007, 0x2008, 0x2009, 0x200A, 0x2028, 0x2029, 0x202F, 0x205F, 0x3000]

theorem continuesName_of_isBlank {c : Char} (blank : Text.isBlank c = true) :
    continuesName c = false := by
  have each : ∀ code ∈ blankCodes, continuesName (Char.ofNat code) = false := by decide +kernel
  have listed : c.toNat ∈ blankCodes := by
    simp [Text.isBlank] at blank
    simp only [blankCodes, List.mem_cons, List.not_mem_nil, or_false]
    omega
  have same := each c.toNat listed
  rwa [Char.ofNat_toNat] at same

/-- What continues a name is part of a word. -/
theorem isWordChar_of_continuesName {c : Char} (continues : continuesName c = true) :
    isWordChar c = true := by
  have noMark : isMark c = false := by
    by_contra mark
    rw [continuesName_of_isMark (Bool.eq_true_of_not_eq_false mark)] at continues
    cases continues
  have noBlank : Text.isBlank c = false := by
    by_contra blank
    rw [continuesName_of_isBlank (Bool.eq_true_of_not_eq_false blank)] at continues
    cases continues
  rw [isWordChar, noMark, noBlank]
  rfl

theorem continuesName_of_isDigit {c : Char} (digit : c.isDigit = true) :
    continuesName c = true := by
  have ascii : c.toNat < 0x80 := by
    have bounds := Char.isDigit_iff_toNat.mp digit
    simp at bounds
    omega
  simp [continuesName, Text.isLetterOrNumber, Text.isNumber, ascii, digit]

theorem isWordChar_of_isDigit {c : Char} (digit : c.isDigit = true) : isWordChar c = true :=
  isWordChar_of_continuesName (continuesName_of_isDigit digit)

/-- Points and the marks of exponents are parts of words. -/
theorem isWordChar_of_mark {c : Char} (mark : c = '.' ∨ c = 'e' ∨ c = 'E') :
    isWordChar c = true := by
  rcases mark with rfl | rfl | rfl
  · decide
  · decide
  · decide

theorem isWordChar_of_mem_mantissa {mantissa : List Char} (isMantissa : IsMantissa mantissa) :
    ∀ c ∈ mantissa, isWordChar c = true := by
  intro c member
  cases isMantissa with
  | whole all some => exact isWordChar_of_isDigit (all c member)
  | @pointed whole fraction all some =>
    rcases List.mem_append.mp member with front | back
    · exact isWordChar_of_isDigit (all c (List.mem_append_left _ front))
    · rcases List.mem_cons.mp back with point | back
      · exact isWordChar_of_mark (.inl point)
      · exact isWordChar_of_isDigit (all c (List.mem_append_right _ back))

theorem isWordChar_of_mem_front {mantissa : List Char} (isMantissa : IsMantissa mantissa)
    {mark : Char} (isMark : mark = 'e' ∨ mark = 'E') :
    ∀ c ∈ mantissa ++ [mark], isWordChar c = true := by
  intro c member
  rcases List.mem_append.mp member with inside | last
  · exact isWordChar_of_mem_mantissa isMantissa c inside
  · rw [List.mem_singleton.mp last]
    exact isWordChar_of_mark (.inr isMark)

/-- The beginning of a literal up to the mark of its exponent never becomes a whole number. -/
theorem neverWhole_mantissa_mark {mantissa : List Char} (isMantissa : IsMantissa mantissa)
    {mark : Char} (isMark : mark = 'e' ∨ mark = 'E') : NeverWhole (mantissa ++ [mark]) := by
  cases isMantissa with
  | whole all some =>
    rcases isMark with rfl | rfl
    · exact neverWhole_of_mark all some rfl (by decide) []
    · exact neverWhole_of_mark all some rfl (by decide) []
  | pointed all some => exact neverWhole_of_point (by simp)

section Items

variable {source : List Literal.Piece} {pieces : List Piece} {text literal : List Char}

/-- Plain decimal text is one word, with a point in it. -/
theorem accounted_plain (accounted : Accounted source pieces) (plain : IsPlain text) :
    Accounted source (addText text pieces) ∧
      addText text pieces = .word (openWord pieces ++ text) :: closed pieces := by
  obtain ⟨whole, fraction, rfl, some, -, digits⟩ := plain
  have words : ∀ c ∈ whole ++ '.' :: fraction, isWordChar c = true := by
    intro c member
    rcases List.mem_append.mp member with front | back
    · exact isWordChar_of_isDigit (digits c (List.mem_append_left _ front))
    · rcases List.mem_cons.mp back with point | back
      · exact isWordChar_of_mark (.inl point)
      · exact isWordChar_of_isDigit (digits c (List.mem_append_right _ back))
  rw [addText_of_isWordChar (by simp) words]
  exact ⟨accounted.extended fun _ => neverWhole_of_point (by simp), rfl⟩

/-- A literal that is too large and has a sign in its exponent is cut there, for signs are marks. -/
theorem accounted_cut (accounted : Accounted source pieces) {mantissa digits : List Char}
    {mark sign : Char} (isMantissa : IsMantissa mantissa) (isMark : mark = 'e' ∨ mark = 'E')
    (isSign : sign = '+' ∨ sign = '-') (all : AllDigits digits) (some : digits ≠ [])
    (member : .literal (mantissa ++ mark :: sign :: digits) ∈ source)
    (infinite : IsInfinite (mantissa ++ mark :: sign :: digits)) :
    Accounted source (addText (mantissa ++ mark :: sign :: digits) pieces) ∧
      openWord (addText (mantissa ++ mark :: sign :: digits) pieces) ≠ [] := by
  have front := isWordChar_of_mem_front isMantissa isMark
  have back : ∀ c ∈ digits, isWordChar c = true := fun c inside =>
    isWordChar_of_isDigit (all c inside)
  have divided : mantissa ++ mark :: sign :: digits = (mantissa ++ [mark]) ++ sign :: digits := by
    simp
  have cut : addText (mantissa ++ mark :: sign :: digits) pieces =
      .word digits :: .mark sign ::
        .word (openWord pieces ++ (mantissa ++ [mark])) :: closed pieces := by
    rw [divided, addText_append, addText_of_isWordChar (by simp) front, addText_cons,
      addChar_sign isSign, addText_of_isWordChar some back]
    rfl
  rw [cut]
  refine ⟨?_, some⟩
  have before := accounted.extended fun _ => neverWhole_mantissa_mark isMantissa isMark
  have marked : Accounted source (.mark sign :: .word _ :: closed pieces) :=
    before.cons fun word same => by cases same
  refine marked.cons fun word same => .inr ?_
  cases same
  have parts : Parts source (openWord pieces ++ mantissa ++ [mark]) sign (digits ++ []) :=
    .cut isMantissa isMark isSign member infinite
  rw [List.append_nil, List.append_assoc] at parts
  exact ⟨_, sign, closed pieces, rfl, parts⟩

/-- A literal that is too large is one word, or two if it is cut at the sign of its exponent. -/
theorem accounted_infinite (accounted : Accounted source pieces) (isLiteral : IsLiteral literal)
    (member : .literal literal ∈ source) (infinite : IsInfinite literal) :
    Accounted source (addText literal pieces) ∧ openWord (addText literal pieces) ≠ [] := by
  obtain ⟨isMantissa, isExponent⟩ := isLiteral
  rename_i mantissa exponent
  have words := isWordChar_of_mem_mantissa isMantissa
  obtain ⟨start, last, same, -⟩ := isMantissa.last
  have some : mantissa ≠ [] := by simp [same]
  cases isExponent with
  | absent =>
    rw [List.append_nil] at *
    rw [addText_of_isWordChar some words]
    refine ⟨accounted.extended fun _ => ?_, by simp [openWord, some]⟩
    cases isMantissa with
    | whole all some => exact neverWhole_of_isInfinite all some infinite
    | pointed => exact neverWhole_of_point (by simp)
  | @present mark sign digits isMark isSign all digits_ne =>
    rcases isSign with rfl | rfl | rfl
    · have divided : mantissa ++ mark :: ([] ++ digits) = (mantissa ++ [mark]) ++ digits := by simp
      have back : ∀ c ∈ digits, isWordChar c = true := fun c inside =>
        isWordChar_of_isDigit (all c inside)
      have front := isWordChar_of_mem_front isMantissa isMark
      rw [divided, addText_of_isWordChar (by simp) (List.forall_mem_append.mpr ⟨front, back⟩)]
      have never := neverWhole_mantissa_mark isMantissa isMark
      exact ⟨accounted.extended fun _ => never.append digits, by simp [openWord]⟩
    · exact accounted_cut accounted isMantissa isMark (.inl rfl) all digits_ne member infinite
    · exact accounted_cut accounted isMantissa isMark (.inr rfl) all digits_ne member infinite

end Items

end DeviceMapping.Formula.Token
