/-
**Tokens of a YAML text.**

A text is cut into scalars, names and the marks of its structure. Blocks are marked by indentation
alone: a token opens a block where a line is indented deeper, and one closes it where a line is
indented less. A colon makes a key of what began on its line at most 1024 characters before; the
token of the key is put in front of it then.
-/

import DeviceMapping.Yaml.Scalar

namespace DeviceMapping.Yaml

/-- A token of a YAML text. -/
inductive Token where
  | version (major minor : Nat)
  | tagHandle (handle meaning : String)
  | documentStart
  | documentEnd
  | blockSequence
  | blockMapping
  | blockEnd
  | flowSequence
  | flowSequenceEnd
  | flowMapping
  | flowMappingEnd
  | dash
  | comma
  | key
  | value
  | alias (name : String)
  | anchor (name : String)
  | tag (handle suffix : String)
  | scalar (text : String) (plain : Bool)
  deriving DecidableEq, Inhabited

/-- A place where a key may have begun: the number of tokens before it, the place in the text, and
whether the block can only go on with a key there. -/
structure KeyStart where
  token : Nat
  index : Nat
  line : Nat
  column : Nat
  required : Bool

/-- How far a text is cut into tokens. The columns of the open blocks and the beginnings of keys are
kept for the innermost level first; there is one beginning of a key per open bracket, and one
outside. -/
structure Scan where
  cursor : Cursor
  tokens : Array Token
  column : Int
  columns : List Int
  keyAllowed : Bool
  keyStart : Option KeyStart
  outerStarts : List (Option KeyStart)

namespace Scan

/-- The beginning of a text. -/
def start (text : List Char) : Scan :=
  ⟨.start text, #[], -1, [], true, none, []⟩

/-- Inside brackets. -/
def inFlow (scan : Scan) : Bool :=
  !scan.outerStarts.isEmpty

/-- One more token, which ends at a place. -/
def add (scan : Scan) (token : Token) (cursor : Cursor) : Scan :=
  { scan with tokens := scan.tokens.push token, cursor := cursor }

/-- Where a key may begin or not from here on. -/
def allowKey (scan : Scan) (allowed : Bool) : Scan :=
  { scan with keyAllowed := allowed }

/-! ### Beginnings of keys -/

/-- Nothing that began before can be a key any more; a required key must not be lost. -/
def dropKeyStart (scan : Scan) : Option Scan :=
  if scan.keyStart.any (·.required) then none else some { scan with keyStart := none }

/-- A key may begin here, if keys are allowed. -/
def noteKeyStart (scan : Scan) : Option Scan :=
  if scan.keyAllowed then
    scan.dropKeyStart.map fun dropped =>
      let cursor := scan.cursor
      { dropped with keyStart := some ⟨scan.tokens.size, cursor.index, cursor.line, cursor.column,
          !scan.inFlow && scan.column == cursor.column⟩ }
  else some scan

/-- The beginning of a key is out of reach: on an earlier line, or too far back. -/
def isStale (cursor : Cursor) (key : KeyStart) : Bool :=
  key.line < cursor.line || key.index + 1024 < cursor.index

/-- Forgets a beginning of a key that is out of reach. -/
def dropStale (cursor : Cursor) (key : Option KeyStart) : Option (Option KeyStart) :=
  if key.any (isStale cursor) then if key.any (·.required) then none else some none else some key

/-- Forgets the beginnings of keys that are out of reach, unless one of them is required. -/
def dropStaleKeys (scan : Scan) : Option Scan := do
  let keyStart ← dropStale scan.cursor scan.keyStart
  let outerStarts ← scan.outerStarts.mapM (dropStale scan.cursor)
  some { scan with keyStart := keyStart, outerStarts := outerStarts }

/-! ### Blocks -/

/-- Opens a block at a column if it is indented deeper, with its token at a place among the
others. -/
def openBlock (scan : Scan) (column place : Nat) (token : Token) : Scan :=
  if !scan.inFlow && scan.column < column then
    { scan with
      column := column, columns := scan.column :: scan.columns,
      tokens := scan.tokens.insertIdxIfInBounds place token }
  else scan

/-- The open columns without those behind a column, and the number of blocks that closes. -/
def closeColumns (column : Int) : Int → List Int → Nat × Int × List Int
  | current, [] => (0, current, [])
  | current, outer :: columns =>
    if column < current then
      let closed := closeColumns column outer columns
      (closed.1 + 1, closed.2)
    else (0, current, outer :: columns)

/-- Closes the blocks that are indented deeper than a column. -/
def closeBlocks (scan : Scan) (column : Int) : Scan :=
  if scan.inFlow then scan
  else
    let (count, current, columns) := closeColumns column scan.column scan.columns
    { scan with
      column := current, columns := columns,
      tokens := scan.tokens ++ Array.replicate count .blockEnd }

/-! ### Gaps and directives -/

/-- Behind the blanks, comments and line ends that begin here; outside brackets a key may begin on a
new line. A tab is a blank where no key may begin. The first argument bounds the steps. -/
def skipGap : Nat → Scan → Scan
  | 0, scan => scan
  | steps + 1, scan =>
    let cursor := scan.cursor
    let marked := if cursor.column = 0 && cursor.rest.head? == some '\ufeff' then cursor.next
      else cursor
    let tabs := scan.inFlow || !scan.keyAllowed
    let afterBlanks := (marked.span fun c => c == ' ' || (tabs && c == '\t')).2
    let atEnd := if afterBlanks.rest.head? == some '#' then afterBlanks.skipLine else afterBlanks
    match atEnd.lineEnd? with
    | some (_, behind) =>
      skipGap steps { scan with cursor := behind, keyAllowed := scan.keyAllowed || !scan.inFlow }
    | none => { scan with cursor := atEnd }

/-- The characters of names. -/
def isNameChar (c : Char) : Bool :=
  c.isAlphanum || c == '_' || c == '-'

/-- A decimal number of at most nine digits. -/
def readNumber (cursor : Cursor) : Option (Nat × Cursor) :=
  let (digits, behind) := cursor.span Char.isDigit
  if digits.length ≤ 9 then (readBase? 10 digits).map (·, behind) else none

/-- The bytes of escapes of two hexadecimal digits behind percent signs, and the place behind. The
first argument bounds the steps. -/
def readBytes : Nat → Cursor → Option (List UInt8 × Cursor)
  | 0, _ => none
  | steps + 1, cursor =>
    match cursor.rest with
    | '%' :: high :: low :: _ => do
      let byte ← readBase? 16 [high, low]
      let (bytes, behind) ← readBytes steps (cursor.skip 3)
      some (UInt8.ofNat byte :: bytes, behind)
    | '%' :: _ => none
    | _ => some ([], cursor)

/-- The characters of tags and of what their handles stand for; brackets and commas only where
`brackets` says so. The first argument bounds the steps. -/
def readTagText (brackets : Bool) : Nat → Cursor → Option (List Char × Cursor)
  | 0, _ => none
  | steps + 1, cursor =>
    match cursor.rest with
    | '%' :: _ => do
      let (bytes, behind) ← readBytes (cursor.rest.length + 1) cursor
      let text ← String.fromUTF8? ⟨bytes.toArray⟩
      let (rest, behind) ← readTagText brackets steps behind
      some (text.toList ++ rest, behind)
    | c :: _ =>
      if isNameChar c || ";/?:@&=+$.!~*'()".toList.contains c ||
          (brackets && [',', '[', ']'].contains c) then
        (readTagText brackets steps cursor.next).map fun (rest, behind) => (c :: rest, behind)
      else some ([], cursor)
    | [] => some ([], cursor)

/-- The handle of a tag: an exclamation mark, and perhaps a name and a second one. -/
def readHandle (cursor : Cursor) : Option (List Char × Cursor) :=
  if cursor.rest.head? == some '!' then
    let (name, behind) := cursor.next.span isNameChar
    if behind.rest.head? == some '!' then some ('!' :: name ++ ['!'], behind.next)
    else some ('!' :: name, behind)
  else none

/-- The parts of a directive behind its name. -/
def readDirective (name : List Char) (cursor : Cursor) : Option (Token × Cursor) := do
  let cursor := cursor.skipBlanks
  if name = "YAML".toList then
    let (major, cursor) ← readNumber cursor
    if cursor.rest.head? == some '.' then
      let (minor, cursor) ← readNumber cursor.next
      some (.version major minor, cursor)
    else none
  else if name = "TAG".toList then
    let (handle, cursor) ← readHandle cursor
    if (handle.getLast? == some '!') && cursor.rest.head?.any isBlankChar then
      let cursor := cursor.skipBlanks
      let (meaning, cursor) ← readTagText true (cursor.rest.length + 1) cursor
      if meaning.isEmpty || !blankFollows cursor.rest then none
      else some (.tagHandle (String.ofList handle) (String.ofList meaning), cursor)
    else none
  else none

/-- A directive and the line end behind it. -/
def scanDirective (scan : Scan) : Option Scan := do
  let scan ← (scan.closeBlocks (-1)).dropKeyStart
  let (name, cursor) := scan.cursor.next.span isNameChar
  if name.isEmpty || !blankFollows cursor.rest then none
  else
    let (token, cursor) ← readDirective name cursor
    let afterBlanks := cursor.skipBlanks
    let atEnd := if afterBlanks.rest.head? == some '#' then afterBlanks.skipLine else afterBlanks
    if lineEndFollows atEnd.rest then some ((scan.allowKey false).add token atEnd.nextLine)
    else none

/-! ### Marks -/

/-- A border of a document. -/
def scanMarker (scan : Scan) (token : Token) : Option Scan := do
  let scan ← (scan.closeBlocks (-1)).dropKeyStart
  some ((scan.allowKey false).add token (scan.cursor.skip 3))

/-- An opening bracket. -/
def openFlow (scan : Scan) (token : Token) : Option Scan := do
  let scan ← scan.noteKeyStart
  let scan := (scan.allowKey true).add token scan.cursor.next
  some { scan with keyStart := none, outerStarts := scan.keyStart :: scan.outerStarts }

/-- A closing bracket. -/
def closeFlow (scan : Scan) (token : Token) : Option Scan := do
  let scan ← scan.dropKeyStart
  let scan := (scan.allowKey false).add token scan.cursor.next
  match scan.outerStarts with
  | keyStart :: outerStarts => some { scan with keyStart := keyStart, outerStarts := outerStarts }
  | [] => some scan

/-- A comma between brackets. -/
def scanComma (scan : Scan) : Option Scan := do
  let scan ← scan.dropKeyStart
  some ((scan.allowKey true).add .comma scan.cursor.next)

/-- The dash before an item of a block. -/
def scanDash (scan : Scan) : Option Scan := do
  if !scan.inFlow && !scan.keyAllowed then none
  let scan := scan.openBlock scan.cursor.column scan.tokens.size .blockSequence
  let scan ← scan.dropKeyStart
  some ((scan.allowKey true).add .dash scan.cursor.next)

/-- The question mark before a key. -/
def scanKey (scan : Scan) : Option Scan := do
  if !scan.inFlow && !scan.keyAllowed then none
  let scan := scan.openBlock scan.cursor.column scan.tokens.size .blockMapping
  let scan ← scan.dropKeyStart
  some ((scan.allowKey (!scan.inFlow)).add .key scan.cursor.next)

/-- The colon before a value. -/
def scanValue (scan : Scan) : Option Scan :=
  match scan.keyStart with
  | some key =>
    let tokens := scan.tokens.insertIdxIfInBounds key.token .key
    let scan := { scan with tokens := tokens, keyStart := none }
    let scan := scan.openBlock key.column key.token .blockMapping
    some ((scan.allowKey false).add .value scan.cursor.next)
  | none =>
    if !scan.inFlow && !scan.keyAllowed then none
    else
      let scan := scan.openBlock scan.cursor.column scan.tokens.size .blockMapping
      some ((scan.allowKey (!scan.inFlow)).add .value scan.cursor.next)

/-! ### Names and scalars -/

/-- An anchor or an alias behind its mark. -/
def scanName (scan : Scan) (token : String → Token) : Option Scan := do
  let scan ← scan.noteKeyStart
  let (name, behind) := scan.cursor.next.span isNameChar
  let ends := blankFollows behind.rest ||
    behind.rest.head?.any fun c => ['?', ':', ',', ']', '}', '%', '@', '`'].contains c
  if name.isEmpty || !ends then none
  else some ((scan.allowKey false).add (token (String.ofList name)) behind)

/-- A tag: in angle brackets as it is, or behind its handle. -/
def readTag (cursor : Cursor) : Option (Token × Cursor) := do
  let steps := cursor.rest.length + 1
  if cursor.rest.take 2 == ['!', '<'] then
    let (suffix, behind) ← readTagText true steps (cursor.skip 2)
    if suffix.isEmpty || behind.rest.head? != some '>' then none
    else some (.tag "" (String.ofList suffix), behind.next)
  else
    let (handle, behind) ← readHandle cursor
    let (suffix, behind) ← readTagText false steps behind
    if 1 < handle.length && handle.getLast? == some '!' then
      if suffix.isEmpty then none
      else some (.tag (String.ofList handle) (String.ofList suffix), behind)
    else
      let suffix := handle.drop 1 ++ suffix
      if suffix.isEmpty then some (.tag "" "!", behind)
      else some (.tag "!" (String.ofList suffix), behind)

/-- A tag, which ends before a blank or, inside brackets, before a comma. -/
def scanTag (scan : Scan) : Option Scan := do
  let scan ← scan.noteKeyStart
  let (token, behind) ← readTag scan.cursor
  if blankFollows behind.rest || (scan.inFlow && behind.rest.head? == some ',') then
    some ((scan.allowKey false).add token behind)
  else none

/-- A block scalar. -/
def scanBlockScalar (scan : Scan) (literal : Bool) : Option Scan := do
  let scan ← scan.dropKeyStart
  let scalar ← readBlockScalar literal scan.column scan.cursor
  some ((scan.allowKey true).add (.scalar scalar.text false) scalar.cursor)

/-- A scalar in quotes. -/
def scanQuoted (scan : Scan) : Option Scan := do
  let scan ← scan.noteKeyStart
  let scalar ← readQuoted scan.cursor
  some ((scan.allowKey false).add (.scalar scalar.text false) scalar.cursor)

/-- A plain scalar; a key may begin behind one that ran to the end of its line. -/
def scanPlain (scan : Scan) : Option Scan := do
  let scan ← scan.noteKeyStart
  let scalar ← readPlain scan.inFlow (scan.column + 1) scan.cursor
  some ((scan.allowKey scalar.lineEnded).add (.scalar scalar.text true) scalar.cursor)

/-! ### The whole text -/

/-- The next token, before which stands no gap. -/
def scanToken (scan : Scan) : Option Scan :=
  let cursor := scan.cursor
  if cursor.isTriple '-' then scan.scanMarker .documentStart
  else if cursor.isTriple '.' then scan.scanMarker .documentEnd
  else
    match cursor.rest with
    | [] => none
    | c :: rest =>
      if c = '%' && cursor.column = 0 then scan.scanDirective
      else if c = '[' then scan.openFlow .flowSequence
      else if c = '{' then scan.openFlow .flowMapping
      else if c = ']' then scan.closeFlow .flowSequenceEnd
      else if c = '}' then scan.closeFlow .flowMappingEnd
      else if c = ',' then scan.scanComma
      else if c = '-' && blankFollows rest then scan.scanDash
      else if c = '?' && (scan.inFlow || blankFollows rest) then scan.scanKey
      else if c = ':' && (scan.inFlow || blankFollows rest) then scan.scanValue
      else if c = '*' then scan.scanName .alias
      else if c = '&' then scan.scanName .anchor
      else if c = '!' then scan.scanTag
      else if c = '|' && !scan.inFlow then scan.scanBlockScalar true
      else if c = '>' && !scan.inFlow then scan.scanBlockScalar false
      else if c = '\'' || c = '"' then scan.scanQuoted
      else if startsPlain scan.inFlow cursor.rest then scan.scanPlain
      else none

/-- The tokens of the rest of a text. The first argument bounds the steps. -/
def finish : Nat → Scan → Option (Array Token)
  | 0, _ => none
  | steps + 1, scan => do
    let scan ← (skipGap (scan.cursor.rest.length + 1) scan).dropStaleKeys
    if scan.cursor.rest.isEmpty then
      let closed ← (scan.closeBlocks (-1)).dropKeyStart
      some closed.tokens
    else
      let scan ← (scan.closeBlocks scan.cursor.column).scanToken
      finish steps scan

end Scan

/-- The tokens of a text. -/
def tokens? (text : List Char) : Option (List Token) :=
  (Scan.finish (text.length + 1) (.start text)).map Array.toList

end DeviceMapping.Yaml
