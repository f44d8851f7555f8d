/-
**Places in a YAML text.**

A cursor is the rest of a text with the line and column it stands at, and the number of characters
before it. Five characters end a line, a carriage return and a line feed together count as one line
end. A line that begins with three dashes or dots marks the border of a document.
-/

namespace DeviceMapping.Yaml

/-- The rest of a text and where it stands. -/
structure Cursor where
  rest : List Char
  index : Nat
  line : Nat
  column : Nat

/-- A blank inside a line. -/
def isBlankChar (c : Char) : Bool :=
  c == ' ' || c == '\t'

/-- The characters that end a line. -/
def isLineEnd (c : Char) : Bool :=
  c == '\n' || c == '\r' || c == '\x85' || c == '\u2028' || c == '\u2029'

/-- Nothing follows, or a line end does. -/
def lineEndFollows (rest : List Char) : Bool :=
  match rest with
  | [] => true
  | c :: _ => isLineEnd c

/-- Nothing follows, or a blank or a line end does. -/
def blankFollows (rest : List Char) : Bool :=
  match rest with
  | [] => true
  | c :: _ => isBlankChar c || isLineEnd c

namespace Cursor

/-- The beginning of a text. -/
def start (text : List Char) : Cursor := ⟨text, 0, 0, 0⟩

/-- Behind a number of characters of the same line. -/
def skip (cursor : Cursor) (count : Nat) : Cursor :=
  ⟨cursor.rest.drop count, cursor.index + count, cursor.line, cursor.column + count⟩

/-- Behind the next character of the same line. -/
def next (cursor : Cursor) : Cursor :=
  cursor.skip 1

/-- The characters that begin here and pass a test no line end passes, and the place behind them. -/
def span (cursor : Cursor) (test : Char → Bool) : List Char × Cursor :=
  let taken := cursor.rest.takeWhile test
  (taken, cursor.skip taken.length)

/-- Behind the blanks that begin here. -/
def skipBlanks (cursor : Cursor) : Cursor :=
  (cursor.span isBlankChar).2

/-- At the end of the line. -/
def skipLine (cursor : Cursor) : Cursor :=
  (cursor.span fun c => !isLineEnd c).2

/-- The character that stands for the line end here, and the beginning of the next line. The rare
separators of lines and paragraphs stand for themselves. -/
def lineEnd? (cursor : Cursor) : Option (Char × Cursor) :=
  match cursor.rest with
  | '\r' :: '\n' :: rest => some ('\n', ⟨rest, cursor.index + 2, cursor.line + 1, 0⟩)
  | c :: rest =>
    if isLineEnd c then
      some (if c == '\u2028' || c == '\u2029' then c else '\n',
        ⟨rest, cursor.index + 1, cursor.line + 1, 0⟩)
    else none
  | [] => none

/-- The beginning of the next line, if a line ends here. -/
def nextLine (cursor : Cursor) : Cursor :=
  (cursor.lineEnd?.map (·.2)).getD cursor

/-- A line begins here with a character three times and a blank. -/
def isTriple (cursor : Cursor) (c : Char) : Bool :=
  cursor.column == 0 && cursor.rest.take 3 == [c, c, c] && blankFollows (cursor.rest.drop 3)

/-- A line of dashes or dots begins here that marks the border of a document. -/
def isMarker (cursor : Cursor) : Bool :=
  cursor.isTriple '-' || cursor.isTriple '.'

end Cursor

end DeviceMapping.Yaml
