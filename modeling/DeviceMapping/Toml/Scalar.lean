/-
**Scalars of a TOML text.**

Texts stand on one line in single or double quotes, or on several in three of them; only in double
quotes there are escapes. Numbers are whole ones of 64 bits and doubles, with single underscores
between digits. A date, a time, or both is an object with its text.
-/

import DeviceMapping.Decimal.Text
import DeviceMapping.Json.Basic
import DeviceMapping.Text.Digit

namespace DeviceMapping.Toml

/-! ### Gaps -/

/-- The text after the blanks of a line. -/
def skipBlanks (text : List Char) : List Char :=
  text.dropWhile fun c => c == ' ' || c == '\t'

/-- The text behind the line end that begins it. -/
def lineEnd? : List Char → Option (List Char)
  | '\n' :: rest | '\r' :: '\n' :: rest => some rest
  | _ => none

/-- A control character other than the tab may stand neither in a comment nor in a text. -/
def isControl (c : Char) : Bool :=
  (c < ' ' && c != '\t') || c == '\x7f'

/-- The text after the blanks and line ends that begin it; the first argument bounds the steps. -/
def skipEmpty : Nat → List Char → List Char
  | 0, text => text
  | steps + 1, text =>
    let text := skipBlanks text
    match lineEnd? text with
    | some rest => skipEmpty steps rest
    | none => text

/-! ### Texts -/

/-- The character that an escape stands for, and the text after it. -/
def readEscape? (text : List Char) : Option (Char × List Char) :=
  let coded (count : Nat) (digits : List Char) : Option (Char × List Char) :=
    if digits.length < count then none
    else ((readBase? 16 (digits.take count)).bind characterOf?).map (·, digits.drop count)
  match text with
  | 'b' :: rest => some ('\x08', rest)
  | 't' :: rest => some ('\t', rest)
  | 'n' :: rest => some ('\n', rest)
  | 'f' :: rest => some ('\x0c', rest)
  | 'r' :: rest => some ('\r', rest)
  | '"' :: rest => some ('"', rest)
  | '\\' :: rest => some ('\\', rest)
  | 'u' :: digits => coded 4 digits
  | 'U' :: digits => coded 8 digits
  | _ => none

/-- A text up to its closing quote, put before `done` reversed, and what follows. The first argument
bounds the steps. -/
def readLine? (quote : Char) : Nat → (done : List Char) → List Char → Option (String × List Char)
  | 0, _, _ => none
  | steps + 1, done, text =>
    match text with
    | [] => none
    | c :: rest =>
      if c = quote then some (String.ofList done.reverse, rest)
      else if c = '\\' && quote == '"' then
        (readEscape? rest).bind fun read => readLine? quote steps (read.1 :: done) read.2
      else if isControl c then none
      else readLine? quote steps (c :: done) rest

/-- A text up to its three closing quotes, before which up to two more may stand, put before `done`
reversed, and what follows. Every line end is a line feed; an escaped one takes all blanks and line
ends behind it along. The first argument bounds the steps. -/
def readLines? (quote : Char) : Nat → (done : List Char) → List Char → Option (String × List Char)
  | 0, _, _ => none
  | steps + 1, done, text =>
    let quotes := (text.takeWhile (· == quote)).length
    match text with
    | [] => none
    | c :: rest =>
      if 3 ≤ quotes then
        let inside := List.replicate (min quotes 5 - 3) quote
        some (String.ofList (inside ++ done).reverse, text.drop (min quotes 5))
      else match lineEnd? text with
        | some rest => readLines? quote steps ('\n' :: done) rest
        | none =>
          if c = '\\' && quote == '"' then
            match lineEnd? (skipBlanks rest) with
            | some rest => readLines? quote steps done (skipEmpty (rest.length + 1) rest)
            | none =>
              (readEscape? rest).bind fun read => readLines? quote steps (read.1 :: done) read.2
          else if isControl c then none
          else readLines? quote steps (c :: done) rest

/-- The text behind its opening quote. -/
def readText? (quote : Char) (text : List Char) : Option (String × List Char) :=
  if text.take 2 == [quote, quote] then
    let inside := text.drop 2
    readLines? quote (inside.length + 1) [] ((lineEnd? inside).getD inside)
  else readLine? quote (text.length + 1) [] text

/-! ### Numbers -/

/-- Digits with single underscores between them, without the underscores. -/
def digitsOf? (isDigit : Char → Bool) (text : List Char) : Option (List Char) :=
  let rec go : Bool → List Char → Option (List Char)
    | afterDigit, [] => if afterDigit then some [] else none
    | afterDigit, c :: rest =>
      if c = '_' then
        if afterDigit then match rest with
          | d :: _ => if isDigit d then go false rest else none
          | [] => none
        else none
      else if isDigit c then (go true rest).map (c :: ·)
      else none
  go false text

/-- Decimal digits without a needless leading zero. -/
def wholeDigits? (text : List Char) : Option (List Char) :=
  (digitsOf? Char.isDigit text).filter fun digits =>
    text.length == 1 || digits.head? != some '0'

/-- The number of digits in a base, single underscores between them. -/
def readBased? (base : Nat) (text : List Char) : Option Int :=
  (digitsOf? (fun c => (digitValue? base c).isSome) text).bind fun digits =>
    (readBase? base digits).map Int.ofNat

/-- A whole number of 64 bits. -/
def readWhole? (word : List Char) : Option Int :=
  let value : Option Int := match word with
    | '0' :: 'x' :: digits => readBased? 16 digits
    | '0' :: 'o' :: digits => readBased? 8 digits
    | '0' :: 'b' :: digits => readBased? 2 digits
    | '-' :: digits => (wholeDigits? digits).bind fun digits =>
        (readBase? 10 digits).map fun magnitude => -(magnitude : Int)
    | '+' :: digits => (wholeDigits? digits).bind fun digits => (readBase? 10 digits).map Int.ofNat
    | digits => (wholeDigits? digits).bind fun digits => (readBase? 10 digits).map Int.ofNat
  value.filter fun value => decide (-0x8000000000000000 ≤ value ∧ value < 0x8000000000000000)

/-- A double in digits: whole ones, then a fraction, an exponent, or both. -/
def readNumber? (negative : Bool) (unsigned : List Char) : Option Float := do
  let isPart (c : Char) : Bool := c.isDigit || c == '_'
  let whole ← wholeDigits? (unsigned.takeWhile isPart)
  let rest := unsigned.dropWhile isPart
  let (fraction, rest) := match rest with
    | '.' :: rest => (some (rest.takeWhile isPart), rest.dropWhile isPart)
    | _ => (none, rest)
  let fraction ← match fraction with
    | some digits => digitsOf? Char.isDigit digits
    | none => some []
  let exponent ← match rest with
    | [] => some []
    | 'e' :: digits | 'E' :: digits =>
      let (negative, digits) := splitSign digits
      (digitsOf? Char.isDigit digits).map fun digits =>
        'e' :: (if negative then '-' :: digits else digits)
    | _ => none
  if fraction.isEmpty && exponent.isEmpty then none
  else
    let pointed := if fraction.isEmpty then [] else '.' :: fraction
    let value ← readDecimal? (whole ++ pointed ++ exponent)
    some (value.toFloat negative)

/-- A double: in digits, where only a negative one may be too large to be finite, or as a word. -/
def readDouble? (word : List Char) : Option Float :=
  let (negative, unsigned) := splitSign word
  if unsigned = "inf".toList then some (Binary64.ofBits negative Binary64.infinityBits)
  else if unsigned = "nan".toList then some (0.0 / 0.0)
  else (readNumber? negative unsigned).filter fun value => negative || value.isFinite

/-- The value of a word: a truth value or a number. -/
def wordValue? (word : List Char) : Option Json :=
  if word = "true".toList then some (.bool true)
  else if word = "false".toList then some (.bool false)
  else match readWhole? word with
    | some value => some (.integer value)
    | none => (readDouble? word).map Json.double

/-- The characters of words that are values. -/
def isWord (c : Char) : Bool :=
  c.isAlphanum || c == '_' || c == '-' || c == '+' || c == '.'

/-! ### Dates and times -/

/-- A number of exactly so many digits between two bounds, and what follows. -/
def readField? (count least greatest : Nat) (text : List Char) : Option (Nat × List Char) :=
  let digits := text.take count
  if digits.length = count && digits.all Char.isDigit && least ≤ digitsValue digits &&
      digitsValue digits ≤ greatest then
    some (digitsValue digits, text.drop count)
  else none

/-- What follows a character that must come next. -/
def after? (c : Char) : List Char → Option (List Char)
  | d :: rest => if c = d then some rest else none
  | [] => none

/-- The number of days of a month. -/
def daysOf (year month : Nat) : Nat :=
  if month = 2 then
    (if year % 4 = 0 && (year % 100 ≠ 0 || year % 400 = 0) then 29 else 28)
  else if [4, 6, 9, 11].contains month then 30 else 31

/-- What follows a date. -/
def afterDate? (text : List Char) : Option (List Char) := do
  let (year, rest) ← readField? 4 0 9999 text
  let rest ← after? '-' rest
  let (month, rest) ← readField? 2 1 12 rest
  let rest ← after? '-' rest
  let (_, rest) ← readField? 2 1 (daysOf year month) rest
  some rest

/-- What follows a time of the day. -/
def afterTime? (text : List Char) : Option (List Char) := do
  let (_, rest) ← readField? 2 0 23 text
  let rest ← after? ':' rest
  let (_, rest) ← readField? 2 0 59 rest
  let rest ← after? ':' rest
  let (_, rest) ← readField? 2 0 60 rest
  match rest with
  | '.' :: digits =>
    if digits.head?.any Char.isDigit then some (digits.dropWhile Char.isDigit) else none
  | _ => some rest

/-- What follows a distance from the zero meridian, if there is one. -/
def afterOffset? (text : List Char) : Option (List Char) :=
  match text with
  | 'Z' :: rest | 'z' :: rest => some rest
  | '+' :: rest | '-' :: rest => do
    let (_, rest) ← readField? 2 0 23 rest
    let rest ← after? ':' rest
    let (_, rest) ← readField? 2 0 59 rest
    some rest
  | _ => some text

/-- What follows a date, a time, or a date with a time. -/
def afterMoment? (text : List Char) : Option (List Char) :=
  match afterDate? text with
  | none => afterTime? text
  | some rest =>
    match rest with
    | mark :: time =>
      if mark = 'T' || mark = 't' then (afterTime? time).bind afterOffset?
      else if mark = ' ' then
        match afterTime? time with
        | some rest => afterOffset? rest
        | none => some (mark :: time)
      else some rest
    | [] => some []

/-- A date, a time, or both, as an object with its text, and what follows. -/
def readMoment? (text : List Char) : Option (Json × List Char) :=
  (afterMoment? text).map fun rest =>
    let written := String.ofList (text.take (text.length - rest.length))
    (.object [("$__toml_private_datetime", .string written)], rest)

end DeviceMapping.Toml
