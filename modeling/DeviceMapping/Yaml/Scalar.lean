/-
**Scalars of a YAML text.**

A plain scalar runs to a comment, a colon before a blank, a bracket or comma inside brackets, or a
line that is not indented enough. A quoted scalar runs to its closing quote. Over a line end both
fold: the blanks around it go, one line end becomes a blank, and of several the first is dropped. A
block scalar is a run of indented lines, kept as they are or folded.
-/

import DeviceMapping.Text.Digit
import DeviceMapping.Yaml.Cursor

namespace DeviceMapping.Yaml

/-- A scalar that was read: its text, the place behind it, and whether that is on a later line. -/
structure ScalarText where
  text : String
  cursor : Cursor
  lineEnded : Bool

/-- What stands between two words of a scalar, latest first: blanks of one line, or the first line
end and those behind it. An escaped line end is none, but folds. -/
structure Fold where
  blanks : List Char
  folded : Bool
  first : Option Char
  more : List Char

namespace Fold

def none : Fold := ⟨[], false, .none, []⟩

/-- The fold that an escaped line end begins. -/
def escaped : Fold := ⟨[], true, .none, []⟩

/-- Nothing stands between two words. -/
def isEmpty (fold : Fold) : Bool :=
  !fold.folded && fold.blanks.isEmpty

/-- The fold with one more blank. -/
def addBlank (fold : Fold) (c : Char) : Fold :=
  if fold.folded then fold else { fold with blanks := c :: fold.blanks }

/-- The fold with one more line end. -/
def addLineEnd (fold : Fold) (c : Char) : Fold :=
  if fold.folded then { fold with more := c :: fold.more } else ⟨[], true, some c, []⟩

/-- The characters that take the place of a fold, last first. -/
def characters (fold : Fold) : List Char :=
  if !fold.folded then fold.blanks
  else match fold.first with
    | some '\n' => if fold.more.isEmpty then [' '] else fold.more
    | some c => fold.more ++ [c]
    | .none => fold.more

end Fold

/-! ### Plain scalars -/

/-- A plain scalar can begin with these characters. -/
def startsPlain (flow : Bool) (rest : List Char) : Bool :=
  match rest with
  | [] => false
  | '-' :: rest => !(rest.head?.any isBlankChar)
  | '?' :: rest | ':' :: rest => !flow && !blankFollows rest
  | c :: _ => !(isBlankChar c || isLineEnd c || ",[]{}#&*!|>'\"%@`".toList.contains c)

/-- The characters that end a plain scalar inside brackets. -/
def endsFlowPlain (c : Char) : Bool :=
  [',', '[', ']', '{', '}'].contains c

/-- A plain scalar stops before these characters. -/
def stopsPlain (flow : Bool) (c : Char) (rest : List Char) : Bool :=
  (c == ':' && blankFollows rest) || (flow && endsFlowPlain c)

/-- A colon that may not stand in a plain scalar inside brackets. -/
def isStrayColon (flow : Bool) (c : Char) (rest : List Char) : Bool :=
  flow && c == ':' &&
    match rest with
    | d :: _ => d == '?' || endsFlowPlain d
    | [] => false

/-- The plain scalar whose characters are `done`, last first, before what does not belong to it. -/
def ScalarText.ofPlain (done : List Char) (fold : Fold) (cursor : Cursor) : ScalarText :=
  ⟨String.ofList done.reverse, cursor, fold.folded⟩

/-- The rest of a plain scalar whose characters so far are `done`, last first. The first argument
bounds the steps, `margin` is the least column of its further lines. -/
def readPlainRest (flow : Bool) (margin : Int) :
    Nat → (done : List Char) → Fold → Cursor → Option ScalarText
  | 0, _, _, _ => none
  | steps + 1, done, fold, cursor =>
    match cursor.rest with
    | [] => some (.ofPlain done fold cursor)
    | c :: rest =>
      if isBlankChar c then
        if fold.folded && c == '\t' && cursor.column < margin then none
        else readPlainRest flow margin steps done (fold.addBlank c) cursor.next
      else match cursor.lineEnd? with
        | some (c, behind) => readPlainRest flow margin steps done (fold.addLineEnd c) behind
        | none =>
          if (fold.folded && !flow && cursor.column < margin) || cursor.isMarker ||
              (!fold.isEmpty && c == '#') then some (.ofPlain done fold cursor)
          else if isStrayColon flow c rest then none
          else if stopsPlain flow c rest then some (.ofPlain done fold cursor)
          else
            readPlainRest flow margin steps (c :: (fold.characters ++ done)) .none cursor.next

/-- The plain scalar that begins here. -/
def readPlain (flow : Bool) (margin : Int) (cursor : Cursor) : Option ScalarText :=
  readPlainRest flow margin (cursor.rest.length + 1) [] .none cursor

/-! ### Quoted scalars -/

/-- The character that an escape stands for, and how many characters it takes. -/
def readEscape (rest : List Char) : Option (Char × Nat) :=
  let coded (count : Nat) (digits : List Char) : Option (Char × Nat) :=
    if digits.length < count then none
    else ((readBase? 16 (digits.take count)).bind characterOf?).map (·, count + 1)
  match rest with
  | '0' :: _ => some ('\x00', 1)
  | 'a' :: _ => some ('\x07', 1)
  | 'b' :: _ => some ('\x08', 1)
  | 't' :: _ | '\t' :: _ => some ('\t', 1)
  | 'n' :: _ => some ('\n', 1)
  | 'v' :: _ => some ('\x0b', 1)
  | 'f' :: _ => some ('\x0c', 1)
  | 'r' :: _ => some ('\r', 1)
  | 'e' :: _ => some ('\x1b', 1)
  | ' ' :: _ => some (' ', 1)
  | '"' :: _ => some ('"', 1)
  | '/' :: _ => some ('/', 1)
  | '\\' :: _ => some ('\\', 1)
  | 'N' :: _ => some ('\x85', 1)
  | '_' :: _ => some ('\xa0', 1)
  | 'L' :: _ => some ('\u2028', 1)
  | 'P' :: _ => some ('\u2029', 1)
  | 'x' :: digits => coded 2 digits
  | 'u' :: digits => coded 4 digits
  | 'U' :: digits => coded 8 digits
  | _ => none

/-- The rest of a quoted scalar whose characters so far are `done`, last first. The first argument
bounds the steps. -/
def readQuotedRest (quote : Char) : Nat → (done : List Char) → Fold → Cursor → Option ScalarText
  | 0, _, _, _ => none
  | steps + 1, done, fold, cursor =>
    let soFar := fold.characters ++ done
    match cursor.rest with
    | [] => none
    | c :: rest =>
      if cursor.isMarker then none
      else if isBlankChar c then readQuotedRest quote steps done (fold.addBlank c) cursor.next
      else match cursor.lineEnd? with
        | some (c, behind) => readQuotedRest quote steps done (fold.addLineEnd c) behind
        | none =>
          if c = quote then
            if quote == '\'' && rest.head? == some '\'' then
              readQuotedRest quote steps ('\'' :: soFar) .none (cursor.skip 2)
            else some ⟨String.ofList soFar.reverse, cursor.next, false⟩
          else if quote == '"' && c == '\\' then
            match cursor.next.lineEnd? with
            | some (_, behind) => readQuotedRest quote steps soFar .escaped behind
            | none =>
              match readEscape rest with
              | some (character, count) =>
                readQuotedRest quote steps (character :: soFar) .none (cursor.skip (count + 1))
              | none => none
          else readQuotedRest quote steps (c :: soFar) .none cursor.next

/-- The scalar in quotes that begins here. -/
def readQuoted (cursor : Cursor) : Option ScalarText :=
  match cursor.rest with
  | quote :: rest => readQuotedRest quote (rest.length + 1) [] .none cursor.next
  | [] => none

/-! ### Block scalars -/

/-- What becomes of the line ends behind a block scalar: none is left, one is left, or all are. -/
inductive Chomping where
  | strip
  | clip
  | keep
  deriving DecidableEq

/-- The head of a block scalar behind its mark: a chomping and an indentation in either order, and
the next line behind blanks and a comment. -/
def readBlockHead (cursor : Cursor) : Option (Chomping × Option Nat × Cursor) :=
  let chomping? (cursor : Cursor) : Chomping × Cursor :=
    match cursor.rest with
    | '+' :: _ => (.keep, cursor.next)
    | '-' :: _ => (.strip, cursor.next)
    | _ => (.clip, cursor)
  let indentation? (cursor : Cursor) : Option Nat × Cursor :=
    match cursor.rest with
    | c :: _ => if c.isDigit then (some (c.toNat - '0'.toNat), cursor.next) else (none, cursor)
    | [] => (none, cursor)
  let first := chomping? cursor
  let indentation := indentation? first.2
  let second := if first.1 = .clip then chomping? indentation.2 else (first.1, indentation.2)
  let afterBlanks := second.2.skipBlanks
  let atEnd := if afterBlanks.rest.head? == some '#' then afterBlanks.skipLine else afterBlanks
  if indentation.1 == some 0 || !lineEndFollows atEnd.rest then none
  else some (second.1, indentation.1, atEnd.nextLine)

/-- The line ends of the empty lines that begin here, latest first, the place behind them and their
indentation, and the greatest column that their blanks reach. An indentation that is not known yet
is zero. -/
def skipEmptyLines (indentation : Nat) :
    Nat → (ends : List Char) → (greatest : Nat) → Cursor → Option (List Char × Nat × Cursor)
  | 0, _, _, _ => none
  | steps + 1, ends, greatest, cursor =>
    match cursor.rest with
    | ' ' :: _ =>
      if indentation = 0 || cursor.column < indentation then
        skipEmptyLines indentation steps ends greatest cursor.next
      else some (ends, max greatest cursor.column, cursor)
    | '\t' :: _ =>
      if indentation = 0 || cursor.column < indentation then none
      else some (ends, max greatest cursor.column, cursor)
    | _ =>
      match cursor.lineEnd? with
      | some (c, behind) =>
        skipEmptyLines indentation steps (c :: ends) (max greatest cursor.column) behind
      | none => some (ends, max greatest cursor.column, cursor)

/-- The lines of a block scalar, put before `done` reversed: `before` is the line end of the line
before, `ends` are those of the empty lines behind it, latest first, and `blankBefore` tells that
the line before began with a blank. The first argument bounds the steps. -/
def readBlockLines (literal : Bool) (chomping : Chomping) (indentation : Nat) :
    Nat → (done before ends : List Char) → (blankBefore : Bool) → Cursor → Option ScalarText
  | 0, _, _, _, _, _ => none
  | steps + 1, done, before, ends, blankBefore, cursor =>
    if cursor.column = indentation && !cursor.rest.isEmpty then
      let blank := cursor.rest.head?.any isBlankChar
      let joint :=
        if !literal && before == ['\n'] && !blankBefore && !blank then
          (if ends.isEmpty then [' '] else [])
        else before
      let line := cursor.span fun c => !isLineEnd c
      let done := line.1.reverse ++ (ends ++ (joint ++ done))
      let (lineEnd, behind) := match line.2.lineEnd? with
        | some (c, behind) => ([c], behind)
        | none => ([], line.2)
      (skipEmptyLines indentation (behind.rest.length + 1) [] 0 behind).bind
        fun (ends, _, cursor) =>
          readBlockLines literal chomping indentation steps done lineEnd ends blank cursor
    else
      let tail := match chomping with
        | .strip => []
        | .clip => before
        | .keep => ends ++ before
      some ⟨String.ofList (tail ++ done).reverse, cursor, true⟩

/-- The block scalar whose mark stands here, inside a block that is indented to a column. -/
def readBlockScalar (literal : Bool) (column : Int) (cursor : Cursor) : Option ScalarText := do
  let (chomping, indentation, start) ← readBlockHead cursor.next
  let known : Nat := match indentation with
    | some more => (max column 0).toNat + more
    | none => 0
  let (ends, greatest, cursor) ← skipEmptyLines known (start.rest.length + 1) [] 0 start
  let least : Nat := max 1 (column + 1).toNat
  readBlockLines literal chomping (if known = 0 then max greatest least else known)
    (cursor.rest.length + 1) [] [] ends false cursor

end DeviceMapping.Yaml
