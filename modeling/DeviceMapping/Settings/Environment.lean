/-
**Settings in the environment.**

A variable whose name begins with `PROPMAP_` sets one field: the rest of its name in small letters,
cut at double underscores and dots, is the way to the field. A value is a truth value, a number, a
text in double quotes, a character in single ones, a list in square brackets, a set of named values
in curly ones, or else the text up to the next bracket or comma. What does not read as one such
value to its end is a text as it stands.
-/

import DeviceMapping.Decimal.Text
import DeviceMapping.Json.Basic
import DeviceMapping.Text.Blank
import DeviceMapping.Text.Digit

namespace DeviceMapping.Environment

/-! ### Names -/

/-- The beginning of the names that count; their case does not. -/
def marker : String := "PROPMAP_"

/-- A name in small letters. -/
def lower (name : List Char) : List Char :=
  name.map Char.toLower

/-- The way to the field that a variable sets; no part of it may be empty. -/
def path? (name : String) : Option (List String) :=
  let marker := lower marker.toList
  let name := lower (Text.trim name).toList
  if marker.isPrefixOf name then
    let field := String.ofList (name.drop marker.length)
    let dotted := Text.trim (String.intercalate "." (field.splitOn "__"))
    let parts := dotted.splitOn "."
    if parts.contains "" then none else some parts
  else none

/-! ### Values -/

/-- The blanks between the parts of a value. -/
def isSpace (c : Char) : Bool :=
  c == ' ' || c == '\t' || c == '\n' || c == '\x0c' || c == '\r'

/-- The text after leading blanks. -/
def skipSpace (text : List Char) : List Char :=
  text.dropWhile isSpace

/-- The characters that end a text without quotes. -/
def isSeparator (c : Char) : Bool :=
  [',', '\x7b', '\x7d', '[', ']'].contains c

/-- The characters of names without quotes. -/
def isNameChar (c : Char) : Bool :=
  c.isAlphanum || c == '_' || c == '-'

/-- The character that an escape stands for, and the text after it. -/
def readEscape? (text : List Char) : Option (Char × List Char) :=
  let coded (count : Nat) (digits : List Char) : Option (Char × List Char) :=
    if digits.length < count then none
    else ((readBase? 16 (digits.take count)).bind characterOf?).map (·, digits.drop count)
  match text with
  | '"' :: rest => some ('"', rest)
  | '\\' :: rest => some ('\\', rest)
  | 'b' :: rest => some ('\x08', rest)
  | 'f' :: rest => some ('\x0c', rest)
  | 'n' :: rest => some ('\n', rest)
  | 'r' :: rest => some ('\r', rest)
  | 't' :: rest => some ('\t', rest)
  | 'u' :: digits => coded 4 digits
  | 'U' :: digits => coded 8 digits
  | _ => none

/-- A text up to its closing quote, put before `done` reversed, and what follows. The first argument
bounds the steps. -/
def readQuoted? : Nat → (done : List Char) → List Char → Option (String × List Char)
  | 0, _, _ => none
  | steps + 1, done, text =>
    match text with
    | [] => none
    | '"' :: rest => some (String.ofList done.reverse, rest)
    | '\\' :: rest =>
      (readEscape? rest).bind fun read => readQuoted? steps (read.1 :: done) read.2
    | c :: rest =>
      if (c < ' ' && c != '\t') || c == '\x7f' then none else readQuoted? steps (c :: done) rest

/-- A whole number with an optional sign. -/
def integer? (text : List Char) : Option Int :=
  let (negative, digits) := splitSign text
  (readDigits? digits).bind fun magnitude =>
    if negative then if magnitude ≤ 0x8000000000000000 then some (-(magnitude : Int)) else none
    else if magnitude < 0x10000000000000000 then some magnitude else none

/-- The value of a text without quotes: a number with a point, a whole number, or a text. -/
def wordValue (word : String) : Json :=
  let characters := word.toList
  let pointed := if characters.contains '.' then readFloat? characters else none
  match pointed, integer? characters with
  | some value, _ => .double value
  | none, some value => .integer value
  | none, none => .string word

/-- The text after a given beginning. -/
def after? (word text : List Char) : Option (List Char) :=
  if word.isPrefixOf text then some (text.drop word.length) else none

/-- The name before a value, with blanks around it and an equals sign behind. -/
def readName? (text : List Char) : Option (String × List Char) := do
  let text := skipSpace text
  let (name, rest) ← match text with
    | '"' :: rest => readQuoted? (rest.length + 1) [] rest
    | _ =>
      let name := text.takeWhile isNameChar
      if name.isEmpty then none else some (String.ofList name, text.dropWhile isNameChar)
  let rest ← after? ['='] (skipSpace rest)
  some (name, rest)

mutual

/-- A value with blanks around it, and what follows. The first argument bounds the steps. -/
def readValue? : Nat → List Char → Option (Json × List Char)
  | 0, _ => none
  | steps + 1, text => do
    let text := skipSpace text
    let (value, rest) ← match after? "true".toList text, after? "false".toList text with
      | some rest, _ => some (.bool true, rest)
      | none, some rest => some (.bool false, rest)
      | none, none =>
        match text with
        | '\x7b' :: rest => (readMembers? steps rest).map fun (members, rest) =>
            (.ofTable (.ofList members), rest)
        | '[' :: rest => (readItems? steps rest).map fun (items, rest) => (.array items, rest)
        | '"' :: rest => (readQuoted? (rest.length + 1) [] rest).map fun (value, rest) =>
            (.string value, rest)
        | '\'' :: c :: '\'' :: rest => some (.string c.toString, rest)
        | '\'' :: _ => none
        | _ =>
          let word := text.takeWhile fun c => !isSeparator c
          some (wordValue (Text.trim (String.ofList word)), text.drop word.length)
    some (value, skipSpace rest)

/-- The values up to a closing bracket; a comma may stand right before it. -/
def readItems? : Nat → List Char → Option (List Json × List Char)
  | 0, _ => none
  | steps + 1, text =>
    match text with
    | ']' :: rest => some ([], rest)
    | _ => do
      let (item, rest) ← readValue? steps text
      match rest with
      | ',' :: rest =>
        let (items, rest) ← readItems? steps rest
        some (item :: items, rest)
      | ']' :: rest => some ([item], rest)
      | _ => none

/-- The named values up to a closing brace; a comma may stand right before it. -/
def readMembers? : Nat → List Char → Option (List (String × Json) × List Char)
  | 0, _ => none
  | steps + 1, text =>
    match text with
    | '\x7d' :: rest => some ([], rest)
    | _ => do
      let (name, rest) ← readName? text
      let (value, rest) ← readValue? steps rest
      match rest with
      | ',' :: rest =>
        let (members, rest) ← readMembers? steps rest
        some ((name, value) :: members, rest)
      | '\x7d' :: rest => some ([(name, value)], rest)
      | _ => none

end

/-- The value that a text spells. -/
def value (text : String) : Json :=
  match readValue? (2 * text.length + 2) text.toList with
  | some (value, []) => value
  | _ => .string text

/-- An object that holds a value at the end of a way. -/
def nested (path : List String) (value : Json) : Json :=
  path.foldr (fun name inner => .object [(name, inner)]) value

/-- The objects of the variables that set a field. -/
def objects (environment : List (String × String)) : List Json :=
  environment.filterMap fun entry => (path? entry.1).map fun path => nested path (value entry.2)

end DeviceMapping.Environment
