/-
**Reading TOML text.**

A text is a list of lines: the header of a table or of one more table in a list, a key with its
value, a comment, or nothing. Keys may be quoted and dotted; values are scalars, arrays and tables
in braces. What is said twice makes the text unreadable, and so does a key of eighty parts or a
value nested so deep. Tables become objects, so the document is one JSON object.
-/

import DeviceMapping.Toml.Item
import DeviceMapping.Toml.Scalar

namespace DeviceMapping.Toml

/-! ### Comments -/

/-- The text at the end of the line of a comment, or the text itself if it begins with none. -/
def skipComment (text : List Char) : List Char :=
  match text with
  | '#' :: rest => rest.dropWhile fun c => !isControl c
  | _ => text

/-- The text behind the end of a line that holds nothing more. -/
def endLine? (text : List Char) : Option (List Char) :=
  match skipComment (skipBlanks text) with
  | [] => some []
  | text => lineEnd? text

/-- The text after blanks, comments and line ends; the first argument bounds the steps. -/
def skipLines : Nat → List Char → List Char
  | 0, text => text
  | steps + 1, text =>
    let behind := skipComment (skipBlanks text)
    match lineEnd? behind with
    | some rest => skipLines steps rest
    | none => behind

/-! ### Keys -/

/-- The number of parts that a key, and of levels that a value, must not reach. -/
def limit : Nat := 80

/-- The characters of keys without quotes. -/
def isBareKey (c : Char) : Bool :=
  c.isAlphanum || c == '_' || c == '-'

/-- One part of a key and what follows it. -/
def readKeyPart? (text : List Char) : Option (String × List Char) :=
  match text with
  | '"' :: rest => readLine? '"' (rest.length + 1) [] rest
  | '\'' :: rest => readLine? '\'' (rest.length + 1) [] rest
  | _ =>
    let part := text.takeWhile isBareKey
    if part.isEmpty then none else some (String.ofList part, text.dropWhile isBareKey)

/-- The parts of a dotted key and what follows it; the first argument bounds the parts. -/
def readKeyParts? : Nat → List Char → Option (List String × List Char)
  | 0, _ => none
  | parts + 1, text => do
    let (part, rest) ← readKeyPart? (skipBlanks text)
    match skipBlanks rest with
    | '.' :: rest =>
      let (others, rest) ← readKeyParts? parts rest
      some (part :: others, rest)
    | rest => some ([part], rest)

/-- The parts of a key before the last, the last, and what follows. -/
def readKey? (text : List Char) : Option (List String × String × List Char) := do
  let (parts, rest) ← readKeyParts? (limit - 1) text
  let last ← parts.getLast?
  some (parts.dropLast, last, rest)

/-! ### Values -/

mutual

/-- A value and what follows it. The first argument bounds the steps, the second the levels of
arrays and tables. -/
def readValue? : Nat → Nat → List Char → Option (Json × List Char)
  | 0, _, _ => none
  | steps + 1, levels, text =>
    match text with
    | '"' :: rest => (readText? '"' rest).map fun read => (.string read.1, read.2)
    | '\'' :: rest => (readText? '\'' rest).map fun read => (.string read.1, read.2)
    | '[' :: rest =>
      if levels = 0 then none
      else (readItems? steps (levels - 1) rest).map fun read => (.array read.1, read.2)
    | '{' :: rest =>
      if levels = 0 then none
      else match skipBlanks rest with
        | '}' :: rest => some (.object [], rest)
        | rest =>
          (readMembers? steps (levels - 1) [] rest).map fun read =>
            (.object (membersJson read.1), read.2)
    | _ =>
      match readMoment? text with
      | some read => some read
      | none => (wordValue? (text.takeWhile isWord)).map (·, text.dropWhile isWord)

/-- The items of an array up to its closing bracket; a comma may follow the last one. -/
def readItems? : Nat → Nat → List Char → Option (List Json × List Char)
  | 0, _, _ => none
  | steps + 1, levels, text =>
    match skipLines (text.length + 1) text with
    | ']' :: rest => some ([], rest)
    | text => do
      let (item, rest) ← readValue? steps levels text
      match skipLines (rest.length + 1) rest with
      | ',' :: rest =>
        let (items, rest) ← readItems? steps levels rest
        some (item :: items, rest)
      | ']' :: rest => some ([item], rest)
      | _ => none

/-- The members of a table in braces up to its closing brace, at least one. -/
def readMembers? : Nat → Nat → Members → List Char → Option (Members × List Char)
  | 0, _, _, _ => none
  | steps + 1, levels, members, text => do
    let (path, name, rest) ← readKey? text
    match rest with
    | '=' :: rest =>
      let (value, rest) ← readValue? steps levels (skipBlanks rest)
      let members ← insert? name value path members
      match skipBlanks rest with
      | ',' :: rest => readMembers? steps levels members rest
      | '}' :: rest => some (members, rest)
      | _ => none
    | _ => none

end

/-! ### Documents -/

/-- A document that is being read: its members, and the way to the table that is open. -/
structure Reading where
  members : Members
  path : List String

/-- The reading after a header and the text behind its line; `next` tells that the header opens one
more table of a list. -/
def readHeader? (next : Bool) (reading : Reading) (text : List Char) :
    Option (Reading × List Char) := do
  let (path, name, rest) ← readKey? text
  let rest ← after? ']' rest
  let rest ← if next then after? ']' rest else some rest
  let rest ← endLine? rest
  let members ← changeAt? (if next then openNext? name else openTable? name) path reading.members
  some (⟨members, path ++ [name]⟩, rest)

/-- The reading after a key with its value and the text behind its line. -/
def readPair? (reading : Reading) (text : List Char) : Option (Reading × List Char) := do
  let (path, name, rest) ← readKey? text
  let rest := skipBlanks (← after? '=' rest)
  let (value, rest) ← readValue? (2 * rest.length + 2) (limit - 1) rest
  let rest ← endLine? rest
  let members ← changeAt? (insert? name value path) reading.path reading.members
  some (⟨members, reading.path⟩, rest)

/-- The members of a document; the first argument bounds the steps. -/
def readDocument? : Nat → Reading → List Char → Option Members
  | 0, _, _ => none
  | steps + 1, reading, text => do
    match skipLines (text.length + 1) text with
    | [] => some reading.members
    | '[' :: '[' :: rest =>
      let (reading, rest) ← readHeader? true reading rest
      readDocument? steps reading rest
    | '[' :: rest =>
      let (reading, rest) ← readHeader? false reading rest
      readDocument? steps reading rest
    | text =>
      let (reading, rest) ← readPair? reading text
      readDocument? steps reading rest

/-- The object of a TOML text. -/
def read? (text : String) : Option Json :=
  let characters := match text.toList with
    | '\ufeff' :: rest => rest
    | characters => characters
  (readDocument? (characters.length + 1) ⟨[], []⟩ characters).map fun members =>
    .object (membersJson members)

end DeviceMapping.Toml
