/-
**Literals of a formula.**

A literal is a run of digits with an optional point and further digits, or a point and digits, with
an optional exponent; it begins where no letter, number or underscore stands before it.
`normalize` goes through a formula from left to right and writes every literal of finite value as
plain decimal text with a fraction, so that no constant is taken for a whole number. A literal that
stands directly before a name or an opening bracket multiplies it. Everything else stays as it is.
-/

import DeviceMapping.Decimal.Text
import DeviceMapping.Text.Letter

namespace DeviceMapping.Literal

/-- A character that continues a name, so that a digit after it begins no literal. -/
def continuesName (c : Char) : Bool :=
  Text.isLetterOrNumber c || c == '_'

/-- The text begins with a digit. -/
def startsWithDigit : List Char → Bool
  | c :: _ => c.isDigit
  | [] => false

/-- The text begins with a literal: a digit, or a point and a digit. -/
def startsLiteral : List Char → Bool
  | '.' :: rest => startsWithDigit rest
  | text => startsWithDigit text

/-! ### The parts of a literal

Each function splits a text into the part at its beginning, which may be empty, and the rest. -/

/-- A run of digits. -/
def splitDigits (text : List Char) : List Char × List Char :=
  (text.takeWhile Char.isDigit, text.dropWhile Char.isDigit)

/-- A point and the digits after it. -/
def splitFraction : List Char → List Char × List Char
  | '.' :: rest => ('.' :: (splitDigits rest).1, (splitDigits rest).2)
  | text => ([], text)

/-- A sign. -/
def splitPlusMinus : List Char → List Char × List Char
  | '+' :: rest => (['+'], rest)
  | '-' :: rest => (['-'], rest)
  | text => ([], text)

/-- The mark of an exponent with an optional sign and at least one digit. -/
def splitExponent : List Char → List Char × List Char
  | [] => ([], [])
  | mark :: rest =>
    let sign := splitPlusMinus rest
    let digits := splitDigits sign.2
    if (mark = 'e' ∨ mark = 'E') ∧ digits.1 ≠ [] then (mark :: (sign.1 ++ digits.1), digits.2)
    else ([], mark :: rest)

/-- The literal at the beginning of a text. -/
def split (text : List Char) : List Char × List Char :=
  let whole := splitDigits text
  let fraction := splitFraction whole.2
  let exponent := splitExponent fraction.2
  (whole.1 ++ (fraction.1 ++ exponent.1), exponent.2)

theorem splitDigits_append (text : List Char) :
    (splitDigits text).1 ++ (splitDigits text).2 = text :=
  List.takeWhile_append_dropWhile

theorem splitFraction_append (text : List Char) :
    (splitFraction text).1 ++ (splitFraction text).2 = text := by
  unfold splitFraction
  split
  · simp [splitDigits_append]
  · rfl

theorem splitPlusMinus_append (text : List Char) :
    (splitPlusMinus text).1 ++ (splitPlusMinus text).2 = text := by
  unfold splitPlusMinus
  split <;> rfl

theorem splitExponent_append (text : List Char) :
    (splitExponent text).1 ++ (splitExponent text).2 = text := by
  unfold splitExponent
  split
  · rfl
  · rename_i mark rest
    dsimp only
    split
    · simp [splitDigits_append, splitPlusMinus_append]
    · rfl

/-- Splitting off a literal loses nothing. -/
theorem split_append (text : List Char) : (split text).1 ++ (split text).2 = text := by
  simp [split, splitExponent_append, splitFraction_append, splitDigits_append]

/-- Where a literal begins, it has at least one character. -/
theorem split_ne_nil {text : List Char} (starts : startsLiteral text) : (split text).1 ≠ [] := by
  unfold startsLiteral at starts
  split at starts
  · simp [split, splitDigits, splitFraction]
  · unfold startsWithDigit at starts
    split at starts
    · simp [split, splitDigits, starts]
    · simp at starts

/-- After a literal less is left. -/
theorem length_split_lt {text : List Char} (starts : startsLiteral text) :
    (split text).2.length < text.length := by
  have whole := congrArg List.length (split_append text)
  have some := List.length_pos_iff.mpr (split_ne_nil starts)
  rw [List.length_append] at whole
  omega

/-! ### The normal form -/

/-- A literal of finite value as plain decimal text; one that is too large stays as it is. -/
def normalText (literal : List Char) : List Char :=
  match readDecimal? literal with
  | some decimal =>
    if decimal.bits < Binary64.infinityBits then (Binary64.shortest decimal.bits).positional
    else literal
  | none => literal

/-- What follows a literal multiplies it: a name or an opening bracket. -/
def multiplies : List Char → Bool
  | next :: _ => next == '(' || next == '_' || Text.isLetter next
  | [] => false

/-- A text with its literals in plain decimal form; `attached` tells that a name may go on right
before it. -/
def normalizeFrom (attached : Bool) (text : List Char) : List Char :=
  if _ : !attached && startsLiteral text then
    let literal := split text
    normalText literal.1 ++ (if multiplies literal.2 then [' ', '*', ' '] else []) ++
      normalizeFrom (literal.1.getLast?.any continuesName) literal.2
  else
    match text with
    | [] => []
    | c :: rest => c :: normalizeFrom (continuesName c) rest
termination_by text.length
decreasing_by
  · rename_i starts
    simp only [Bool.and_eq_true] at starts
    exact length_split_lt starts.2
  · simp

/-- A formula with its literals in plain decimal form. -/
def normalize (formula : String) : String :=
  String.ofList (normalizeFrom false formula.toList)

end DeviceMapping.Literal
