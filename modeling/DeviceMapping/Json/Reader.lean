/-
**Reading JSON text.**

`readWritten?` accepts one JSON value with blanks around it and gives it as it is written; `read?`
gives its value. A number without point and exponent is whole when it fits 64 bits, every other
number is a double and must be finite; `-0` is a double. Arrays and objects may be nested at most
127 deep.
-/

import DeviceMapping.Decimal.Text
import DeviceMapping.Json.Written
import DeviceMapping.Text.Digit

namespace DeviceMapping.Json

/-- The blanks allowed between the parts of a text. -/
def isSpace (c : Char) : Bool :=
  c == ' ' || c == '\n' || c == '\t' || c == '\r'

/-- The text after leading blanks. -/
def skipSpace (text : List Char) : List Char :=
  text.dropWhile isSpace

/-- The text after a given beginning. -/
def afterWord? : List Char → List Char → Option (List Char)
  | [], text => some text
  | c :: word, d :: text => if c = d then afterWord? word text else none
  | _ :: _, [] => none

/-! ### Strings -/

/-- Four hexadecimal digits and the text after them. -/
def readUnit? : List Char → Option (Nat × List Char)
  | a :: b :: c :: d :: rest => do
    let a ← hexValue? a
    let b ← hexValue? b
    let c ← hexValue? c
    let d ← hexValue? d
    some (((a * 16 + b) * 16 + c) * 16 + d, rest)
  | _ => none

/-- The unit is the first half of a pair. -/
def isHighHalf (unit : Nat) : Bool := 0xD800 ≤ unit && unit < 0xDC00

/-- The unit is the second half of a pair. -/
def isLowHalf (unit : Nat) : Bool := 0xDC00 ≤ unit && unit < 0xE000

/-- The character of a four digit escape, or of two that make up a pair; half a pair alone stands
for no character. -/
def readUnicode? (text : List Char) : Option (Option Char × List Char) := do
  let (unit, rest) ← readUnit? text
  if isHighHalf unit then
    match (afterWord? ['\\', 'u'] rest).bind readUnit? with
    | some (low, behind) =>
      if isLowHalf low then
        some (some (Char.ofNat (0x10000 + (unit - 0xD800) * 0x400 + (low - 0xDC00))), behind)
      else some (none, rest)
    | none => some (none, rest)
  else if isLowHalf unit then some (none, rest)
  else some (some (Char.ofNat unit), rest)

/-- The character that an escape of one letter stands for. -/
def shortEscape? (c : Char) : Option Char :=
  match c with
  | '"' => some '"'
  | '\\' => some '\\'
  | '/' => some '/'
  | 'b' => some '\x08'
  | 'f' => some '\x0c'
  | 'n' => some '\n'
  | 'r' => some '\r'
  | 't' => some '\t'
  | _ => none

/-- The characters of a string up to its closing quote, put before `done` reversed, and the text
after it; there is no string where an escape stands for no character. The first argument bounds the
steps. -/
def readString? : Nat → Option (List Char) → List Char → Option (Option String × List Char)
  | 0, _, _ => none
  | steps + 1, done, text =>
    match text with
    | [] => none
    | '"' :: rest => some (done.map fun done => String.ofList done.reverse, rest)
    | '\\' :: 'u' :: rest =>
      (readUnicode? rest).bind fun read =>
        readString? steps (done.bind fun done => read.1.map (· :: done)) read.2
    | '\\' :: c :: rest =>
      (shortEscape? c).bind fun c => readString? steps (done.map (c :: ·)) rest
    | c :: rest => if c.toNat < 0x20 then none else readString? steps (done.map (c :: ·)) rest

/-! ### Numbers -/

/-- The parts of a number as they are written. -/
structure NumberText where
  negative : Bool
  whole : List Char
  fraction : Option (List Char)
  exponent : Option (Bool × List Char)

/-- The longest run of digits at the beginning of a text, and the rest. -/
def spanDigits (text : List Char) : List Char × List Char :=
  (text.takeWhile Char.isDigit, text.dropWhile Char.isDigit)

/-- The minus before a number. -/
def splitMinus : List Char → Bool × List Char
  | '-' :: rest => (true, rest)
  | text => (false, text)

/-- The digits behind a point, if there is one. -/
def splitFraction : List Char → Option (List Char) × List Char
  | '.' :: rest => (some (spanDigits rest).1, (spanDigits rest).2)
  | text => (none, text)

/-- The sign and the digits of an exponent, if there is one. -/
def splitExponent : List Char → Option (Bool × List Char) × List Char
  | 'e' :: rest | 'E' :: rest =>
    let signed := splitSign rest
    (some (signed.1, (spanDigits signed.2).1), (spanDigits signed.2).2)
  | text => (none, text)

/-- A number's text: no needless leading zero, and digits wherever a part is begun. -/
def splitNumber? (text : List Char) : Option (NumberText × List Char) :=
  let (negative, text) := splitMinus text
  let (whole, text) := spanDigits text
  let (fraction, text) := splitFraction text
  let (exponent, text) := splitExponent text
  if whole.isEmpty || (whole.head? == some '0' && whole.length != 1) then none
  else if fraction == some [] || (exponent.map (·.2)) == some [] then none
  else some (⟨negative, whole, fraction, exponent⟩, text)

/-- The number that digits write behind those of `significand`, as far as it fits 64 bits, and how
many of the digits it takes up. -/
def takeDigits (significand : Nat) : List Char → Nat × Nat
  | [] => (significand, 0)
  | digit :: rest =>
    let next := 10 * significand + digitsValue [digit]
    if next < 0x10000000000000000 then
      let taken := takeDigits next rest
      (taken.1, taken.2 + 1)
    else (significand, 0)

/-- A double times a power of ten, each step rounded. A power beyond `10 ^ 308` takes two divisions,
as a factor it takes every number but zero out of range. -/
def scaleTen? (value : Float) (exponent : Int) : Option Float :=
  let power (n : Nat) : Float := Decimal.toFloat false ⟨1, n⟩
  if value == 0 then some value
  else match exponent with
    | .ofNat n =>
      if n ≤ 308 && (value * power n).isFinite then some (value * power n) else none
    | .negSucc n =>
      if n < 308 then some (value / power (n + 1))
      else if n < 616 then some (value / power 308 / power (n - 307))
      else some 0

/-- The double of a number. Digits count up to where they no longer fit 64 bits; further ones before
the point only tell how large the number is. -/
def NumberText.double? (number : NumberText) : Option Float :=
  let whole := takeDigits 0 number.whole
  let both := takeDigits whole.1 (number.fraction.getD [])
  let scale : Int := (number.whole.length - whole.2 : Nat) - both.2
  let exponent : Int := match number.exponent with
    | some (negative, digits) =>
      if negative then -(digitsValue digits : Int) else digitsValue digits
    | none => 0
  (scaleTen? (Decimal.toFloat false ⟨both.1, 0⟩) (scale + exponent)).map fun value =>
    if number.negative then -value else value

/-- The value of a number: whole when it is written so and fits 64 bits, else a finite double. -/
def NumberText.value (number : NumberText) : WrittenJson :=
  let whole := digitsValue number.whole
  let isWhole := number.fraction.isNone && number.exponent.isNone
  if isWhole && !number.negative && whole < 0x10000000000000000 then .integer whole
  else if isWhole && number.negative && 0 < whole && whole ≤ 0x8000000000000000 then
    .integer (-(whole : Int))
  else match number.double? with
    | some value => .double value
    | none => .unreadable

/-! ### Values -/

mutual

/-- A value at the beginning of a text, and the rest. The first argument bounds the steps. -/
def readValue? : Nat → List Char → Option (WrittenJson × List Char)
  | 0, _ => none
  | steps + 1, text =>
    match skipSpace text with
    | 'n' :: rest => (afterWord? "ull".toList rest).map (.null, ·)
    | 't' :: rest => (afterWord? "rue".toList rest).map (.bool true, ·)
    | 'f' :: rest => (afterWord? "alse".toList rest).map (.bool false, ·)
    | '"' :: rest => (readString? (rest.length + 1) (some []) rest).map fun read =>
        ((read.1.map WrittenJson.string).getD .unreadable, read.2)
    | '[' :: rest =>
      match skipSpace rest with
      | ']' :: rest => some (.array [], rest)
      | _ => (readItems? steps rest).map fun read => (.array read.1, read.2)
    | '{' :: rest =>
      match skipSpace rest with
      | '}' :: rest => some (.object [], rest)
      | _ => (readMembers? steps rest).map fun read =>
          ((read.1.map WrittenJson.object).getD .unreadable, read.2)
    | text => (splitNumber? text).map fun read => (read.1.value, read.2)

/-- The items of an array up to its closing bracket, at least one. -/
def readItems? : Nat → List Char → Option (List WrittenJson × List Char)
  | 0, _ => none
  | steps + 1, text => do
    let (item, rest) ← readValue? steps text
    match skipSpace rest with
    | ',' :: rest =>
      let (items, rest) ← readItems? steps rest
      some (item :: items, rest)
    | ']' :: rest => some ([item], rest)
    | _ => none

/-- The members of an object up to its closing bracket, at least one; there are none where a name
cannot be read. -/
def readMembers? : Nat → List Char → Option (Option (List (String × WrittenJson)) × List Char)
  | 0, _ => none
  | steps + 1, text =>
    match skipSpace text with
    | '"' :: rest => do
      let (name, rest) ← readString? (rest.length + 1) (some []) rest
      match skipSpace rest with
      | ':' :: rest =>
        let (value, rest) ← readValue? steps rest
        let member := name.map fun name => (name, value)
        match skipSpace rest with
        | ',' :: rest =>
          let (members, rest) ← readMembers? steps rest
          some (member.bind fun member => members.map (member :: ·), rest)
        | '}' :: rest => some (member.map ([·]), rest)
        | _ => none
      | _ => none
    | _ => none

end

/-- What a JSON text says. -/
def readWritten? (text : String) : Option WrittenJson :=
  let characters := text.toList
  match readValue? (2 * characters.length + 2) characters with
  | some (value, rest) => if (skipSpace rest).isEmpty then some value else none
  | none => none

/-- The levels of arrays and objects that a text may have. -/
def nestingLimit : Nat := 127

/-- The value of a JSON text in canonical form. -/
def read? (text : String) : Option Json :=
  (readWritten? text).bind (WrittenJson.value? nestingLimit)

end DeviceMapping.Json
