/-
**The tokens of an expression.**

A text is first cut into pieces: quoted texts, marks of one character, blanks and words; comments
are skipped, and a word goes on behind a comment. Marks that stand together then form operators, and
a word is a number, a truth value or a name. A word, a sign and another word that spell a number
together are that number.
-/

import DeviceMapping.Formula.Value
import DeviceMapping.Text.Blank
import DeviceMapping.Text.Digit

namespace DeviceMapping.Formula

/-- An operator between two operands. -/
inductive BinaryOperator where
  | add
  | subtract
  | multiply
  | divide
  | remainder
  | power
  | equal
  | unequal
  | greater
  | less
  | atLeast
  | atMost
  | both
  | either
  deriving DecidableEq, Inhabited

/-- A token of an expression. -/
inductive Token where
  | binary (operator : BinaryOperator)
  | negation
  | assignment (compound : Bool)
  | opening
  | closing
  | comma
  | semicolon
  | name (text : String)
  | constant (value : Value)
  deriving Inhabited

namespace Token

/-- A piece of the text, before pieces form tokens. -/
inductive Piece where
  | quoted (text : String)
  | mark (c : Char)
  | blank
  | word (characters : List Char)
  deriving Inhabited

/-- What the scan is inside of. -/
inductive Region where
  | expression
  | quotation (reversed : List Char)
  | lineComment
  | blockComment

/-- A character that is a piece by itself. -/
def isMark (c : Char) : Bool :=
  "+-*/%^(),;=!><&|".toList.contains c

/-- The pieces, newest first, with one more character. -/
def addChar (c : Char) (pieces : List Piece) : List Piece :=
  if isMark c then .mark c :: pieces
  else if Text.isBlank c then .blank :: pieces
  else match pieces with
    | .word characters :: rest => .word (characters ++ [c]) :: rest
    | _ => .word [c] :: pieces

/-- Cuts a text into pieces, newest first. An open quotation or block comment at the end of the
text and an unknown escape in a quotation are refused; a line comment takes its line break along. -/
def scan : Region → List Piece → List Char → Option (List Piece)
  | .expression, pieces, '/' :: '/' :: rest => scan .lineComment pieces rest
  | .expression, pieces, '/' :: '*' :: rest => scan .blockComment pieces rest
  | .expression, pieces, '"' :: rest => scan (.quotation []) pieces rest
  | .expression, pieces, c :: rest => scan .expression (addChar c pieces) rest
  | .expression, pieces, [] => some pieces
  | .quotation text, pieces, '"' :: rest =>
    scan .expression (.quoted (String.ofList text.reverse) :: pieces) rest
  | .quotation text, pieces, '\\' :: '"' :: rest => scan (.quotation ('"' :: text)) pieces rest
  | .quotation text, pieces, '\\' :: '\\' :: rest => scan (.quotation ('\\' :: text)) pieces rest
  | .quotation _, _, '\\' :: _ => none
  | .quotation text, pieces, c :: rest => scan (.quotation (c :: text)) pieces rest
  | .quotation _, _, [] => none
  | .lineComment, pieces, '\n' :: rest => scan .expression pieces rest
  | .lineComment, pieces, _ :: rest => scan .lineComment pieces rest
  | .lineComment, pieces, [] => some pieces
  | .blockComment, pieces, '*' :: '/' :: rest => scan .expression pieces rest
  | .blockComment, pieces, _ :: rest => scan .blockComment pieces rest
  | .blockComment, _, [] => none

/-! ### Words -/

/-- A word that spells a whole number of 64 bits, in decimal or behind `0x` in hexadecimal. -/
def wholeNumber? (word : List Char) : Option Int :=
  let digits := match word with
    | '0' :: 'x' :: digits => readBase? 16 digits
    | _ => readDigits? word
  digits.bind fun value => if value < 0x8000000000000000 then some (value : Int) else none

/-- The constant that a word spells. -/
def constant? (word : List Char) : Option Value :=
  match wholeNumber? word with
  | some value => some (.whole value)
  | none =>
    match readFloat? word with
    | some value => some (.float value)
    | none =>
      if word = "true".toList then some (.boolean true)
      else if word = "false".toList then some (.boolean false)
      else none

/-- The token of a word, and how many of the following pieces belong to it. -/
def ofWord (word : List Char) (following : List Piece) : Token × Nat :=
  match constant? word with
  | some value => (.constant value, 0)
  | none =>
    let joined := match following with
      | .mark sign :: .word next :: _ =>
        if sign = '+' ∨ sign = '-' then readFloat? (word ++ sign :: next) else none
      | _ => none
    match joined with
    | some value => (.constant (.float value), 2)
    | none => (.name (String.ofList word), 0)

/-! ### Marks -/

/-- The operator of one mark that may be made an assignment by `=`. -/
def arithmetic? (c : Char) : Option BinaryOperator :=
  match c with
  | '+' => some .add
  | '-' => some .subtract
  | '*' => some .multiply
  | '/' => some .divide
  | '%' => some .remainder
  | '^' => some .power
  | _ => none

/-- The first of the following pieces is a given mark. -/
def nextIs (c : Char) : List Piece → Bool
  | .mark d :: _ => c == d
  | _ => false

/-- A mark that must stand twice, and makes an assignment with `=` behind it. -/
def doubled? (c : Char) (operator : BinaryOperator) (following : List Piece) :
    Option (Token × Nat) :=
  if nextIs c following then
    if nextIs '=' (following.drop 1) then some (.assignment true, 2)
    else some (.binary operator, 1)
  else none

/-- A mark with a meaning of its own and another one with `=` behind it. -/
def extended (alone together : Token) (following : List Piece) : Token × Nat :=
  if nextIs '=' following then (together, 1) else (alone, 0)

/-- The token of a mark, and how many of the following pieces belong to it. -/
def ofMark? (c : Char) (following : List Piece) : Option (Token × Nat) :=
  match arithmetic? c with
  | some operator => some (extended (.binary operator) (.assignment true) following)
  | none =>
    match c with
    | '(' => some (.opening, 0)
    | ')' => some (.closing, 0)
    | ',' => some (.comma, 0)
    | ';' => some (.semicolon, 0)
    | '=' => some (extended (.assignment false) (.binary .equal) following)
    | '!' => some (extended .negation (.binary .unequal) following)
    | '>' => some (extended (.binary .greater) (.binary .atLeast) following)
    | '<' => some (extended (.binary .less) (.binary .atMost) following)
    | '&' => doubled? '&' .both following
    | '|' => doubled? '|' .either following
    | _ => none

/-! ### Tokens -/

/-- The tokens of pieces, after a number of pieces that belong to the token before. -/
def ofPieces? : Nat → List Piece → Option (List Token)
  | _, [] => some []
  | taken + 1, _ :: rest => ofPieces? taken rest
  | 0, piece :: rest =>
    match piece with
    | .blank => ofPieces? 0 rest
    | .quoted text => (ofPieces? 0 rest).map (.constant (.text text) :: ·)
    | .word word =>
      let token := ofWord word rest
      (ofPieces? token.2 rest).map (token.1 :: ·)
    | .mark c =>
      (ofMark? c rest).bind fun token => (ofPieces? token.2 rest).map (token.1 :: ·)

/-- The tokens of a text. -/
def ofText? (text : List Char) : Option (List Token) :=
  (scan .expression [] text).bind fun pieces => ofPieces? 0 pieces.reverse

end Token

end DeviceMapping.Formula
