/-
**The grammar of JSON texts.**

What a text says, said without reading it: every relation takes a text, what its beginning says and
what is left behind that.

* `SaysString`: the characters of a string up to its closing quote, escapes among them. Half of a
  pair of units alone stands for no character, and the string says nothing.
* `SaysNumber`: the parts of a number; `NumberText.Denotes`: its value. It is whole if it is written
  so and fits 64 bits, else a double, and nothing if its `magnitude` is too large for one.
* `Says`: a value, with `SaysItems` and `SaysMembers` inside its brackets. `IsText`: a text that says
  a value between blanks, and nothing else.
-/

import DeviceMapping.Json.Reader
import Mathlib.Algebra.Field.Rat
import Mathlib.Algebra.Order.Ring.Rat

namespace DeviceMapping

/-! ### Blanks -/

namespace Json

/-- The text goes on with the rest behind blanks. -/
inductive Blanks : List Char → List Char → Prop
  | none {rest : List Char} : Blanks rest rest
  | cons {c : Char} {text rest : List Char} (blank : c ∈ [' ', '\n', '\t', '\r'])
      (later : Blanks text rest) : Blanks (c :: text) rest

/-! ### Strings -/

/-- The escapes of one letter and the characters they stand for. -/
def shortEscapes : List (Char × Char) :=
  [('"', '"'), ('\\', '\\'), ('/', '/'), ('b', '\x08'), ('f', '\x0c'), ('n', '\n'), ('r', '\r'),
    ('t', '\t')]

/-- Four hexadecimal digits and their value. -/
inductive SaysUnit : List Char → Nat → List Char → Prop
  | digits {a b c d : Char} {i j k l : Nat} {rest : List Char} (first : hexValue? a = some i)
      (second : hexValue? b = some j) (third : hexValue? c = some k)
      (fourth : hexValue? d = some l) :
      SaysUnit (a :: b :: c :: d :: rest) (0x1000 * i + 0x100 * j + 0x10 * k + l) rest

/-- The first half of a pair of units. -/
def IsHigh (unit : Nat) : Prop :=
  0xD800 ≤ unit ∧ unit < 0xDC00

/-- The second half of a pair of units. -/
def IsLow (unit : Nat) : Prop :=
  0xDC00 ≤ unit ∧ unit < 0xE000

/-- The character of a pair of units. -/
def pairedChar (high low : Nat) : Char :=
  Char.ofNat (0x10000 + (high - 0xD800) * 0x400 + (low - 0xDC00))

/-- The character of a four digit escape or of two that make up a pair; half of a pair that stands
alone has none. A first half is alone if no second half follows. -/
inductive SaysUnicode : List Char → Option Char → List Char → Prop
  | whole {n : Nat} {text rest : List Char} (unit : SaysUnit text n rest)
      (notHigh : ¬ IsHigh n) (notLow : ¬ IsLow n) : SaysUnicode text (some (Char.ofNat n)) rest
  | pair {high low : Nat} {text digits rest : List Char}
      (first : SaysUnit text high ('\\' :: 'u' :: digits)) (isHigh : IsHigh high)
      (second : SaysUnit digits low rest) (isLow : IsLow low) :
      SaysUnicode text (some (pairedChar high low)) rest
  | low {n : Nat} {text rest : List Char} (unit : SaysUnit text n rest)
      (isLow : IsLow n) : SaysUnicode text none rest
  | high {n : Nat} {text rest : List Char} (unit : SaysUnit text n rest)
      (isHigh : IsHigh n) (alone : ∀ digits low behind, rest = '\\' :: 'u' :: digits →
        SaysUnit digits low behind → ¬ IsLow low) : SaysUnicode text none rest

/-- The characters of a string up to its closing quote; none if half of a pair stands alone. -/
inductive SaysString : List Char → Option (List Char) → List Char → Prop
  | close {rest : List Char} : SaysString ('"' :: rest) (some []) rest
  | plain {c : Char} {text rest : List Char} {said : Option (List Char)} (notQuote : c ≠ '"')
      (notEscape : c ≠ '\\') (notControl : 0x20 ≤ c.toNat) (later : SaysString text said rest) :
      SaysString (c :: text) (said.map (c :: ·)) rest
  | short {letter c : Char} {text rest : List Char} {said : Option (List Char)}
      (escape : (letter, c) ∈ shortEscapes) (later : SaysString text said rest) :
      SaysString ('\\' :: letter :: text) (said.map (c :: ·)) rest
  | unicode {c : Option Char} {digits text rest : List Char} {said : Option (List Char)}
      (escape : SaysUnicode digits c text) (later : SaysString text said rest) :
      SaysString ('\\' :: 'u' :: digits) (c.bind fun c => said.map (c :: ·)) rest

/-! ### Numbers -/

/-- A run of digits, at least one. -/
structure IsDigits (digits : List Char) : Prop where
  some : digits ≠ []
  all : ∀ c ∈ digits, c.isDigit = true

/-- The minus of a number, if there is one. -/
inductive SaysMinus : List Char → Bool → List Char → Prop
  | absent {rest : List Char} : SaysMinus rest false rest
  | present {rest : List Char} : SaysMinus ('-' :: rest) true rest

/-- The digits behind the point of a number, if it has one. -/
inductive SaysFraction : List Char → Option (List Char) → List Char → Prop
  | absent {rest : List Char} : SaysFraction rest none rest
  | present {digits rest : List Char} (isDigits : IsDigits digits) :
      SaysFraction ('.' :: (digits ++ rest)) (some digits) rest

/-- The sign and the digits behind the mark of an exponent, if there is one. -/
inductive SaysExponent : List Char → Option (Bool × List Char) → List Char → Prop
  | absent {rest : List Char} : SaysExponent rest none rest
  | present {mark : Char} {sign digits rest : List Char} {negative : Bool}
      (isMark : mark = 'e' ∨ mark = 'E')
      (isSign : (sign, negative) ∈ [([], false), (['+'], false), (['-'], true)])
      (isDigits : IsDigits digits) :
      SaysExponent (mark :: (sign ++ (digits ++ rest))) (some (negative, digits)) rest

/-- The parts of a number; its whole part has no needless zero in front. -/
inductive SaysNumber : List Char → NumberText → List Char → Prop
  | parts {text whole behind behind' rest : List Char} {negative : Bool}
      {fraction : Option (List Char)} {exponent : Option (Bool × List Char)}
      (minus : SaysMinus text negative (whole ++ behind)) (isDigits : IsDigits whole)
      (leading : whole.head? = some '0' → whole = ['0'])
      (point : SaysFraction behind fraction behind') (mark : SaysExponent behind' exponent rest) :
      SaysNumber text ⟨negative, whole, fraction, exponent⟩ rest

/-- A whole number that fits 64 bits, with a sign or without one. -/
def FitsWord (n : Int) : Prop :=
  -0x8000000000000000 ≤ n ∧ n < 0x10000000000000000

namespace NumberText

/-- The value of the whole part with its sign. -/
def integer (number : NumberText) : Int :=
  if number.negative then -(digitsValue number.whole : Int) else digitsValue number.whole

/-- The number is written without a fraction and an exponent and fits 64 bits; `-0` is no whole
number. -/
structure IsWhole (number : NumberText) : Prop where
  noFraction : number.fraction = none
  noExponent : number.exponent = none
  fits : FitsWord number.integer
  notMinusZero : number.negative = true → number.integer ≠ 0

/-- The power of ten that is written behind the digits. -/
def tens (number : NumberText) : Int :=
  match number.exponent with
  | none => 0
  | some (true, digits) => -(digitsValue digits : Int)
  | some (false, digits) => digitsValue digits

/-- How large a number is, whatever its sign. -/
def magnitude (number : NumberText) : ℚ :=
  let fraction := number.fraction.getD []
  digitsValue (number.whole ++ fraction) * 10 ^ (number.tens - fraction.length)

/-- The value of a number: whole, else a double, and none if it is too large. No number is too large
below `10 ^ 308`, and from twice as much on every number is; in between rounding decides. -/
inductive Denotes (number : NumberText) : WrittenJson → Prop
  | whole (isWhole : number.IsWhole) : Denotes number (.integer number.integer)
  | double {value : Float} (notWhole : ¬ number.IsWhole) (scaled : number.double? = some value)
      (inRange : number.magnitude < 2 * 10 ^ 308) : Denotes number (.double value)
  | tooLarge (notWhole : ¬ number.IsWhole) (unscaled : number.double? = none)
      (large : 10 ^ 308 ≤ number.magnitude) : Denotes number .unreadable

end NumberText

/-! ### Values -/

mutual

/-- A value. -/
inductive Says : List Char → WrittenJson → List Char → Prop
  | nullWord {rest : List Char} : Says ('n' :: 'u' :: 'l' :: 'l' :: rest) .null rest
  | trueWord {rest : List Char} : Says ('t' :: 'r' :: 'u' :: 'e' :: rest) (.bool true) rest
  | falseWord {rest : List Char} :
      Says ('f' :: 'a' :: 'l' :: 's' :: 'e' :: rest) (.bool false) rest
  | number {text rest : List Char} {number : NumberText} {written : WrittenJson}
      (parts : SaysNumber text number rest) (denotes : number.Denotes written) :
      Says text written rest
  | string {text said rest : List Char} (inside : SaysString text (some said) rest) :
      Says ('"' :: text) (.string (String.ofList said)) rest
  | unreadableString {text rest : List Char} (inside : SaysString text none rest) :
      Says ('"' :: text) .unreadable rest
  | emptyArray {text rest : List Char} (inside : Blanks text (']' :: rest)) :
      Says ('[' :: text) (.array []) rest
  | array {text rest : List Char} {items : List WrittenJson}
      (inside : SaysItems text items rest) : Says ('[' :: text) (.array items) rest
  | emptyObject {text rest : List Char} (inside : Blanks text ('\x7d' :: rest)) :
      Says ('\x7b' :: text) (.object []) rest
  | object {text rest : List Char} {members : List (String × WrittenJson)}
      (inside : SaysMembers text (some members) rest) :
      Says ('\x7b' :: text) (.object members) rest
  | unreadableObject {text rest : List Char} (inside : SaysMembers text none rest) :
      Says ('\x7b' :: text) .unreadable rest

/-- The items of an array up to its closing bracket, at least one. -/
inductive SaysItems : List Char → List WrittenJson → List Char → Prop
  | last {text first second rest : List Char} {item : WrittenJson} (before : Blanks text first)
      (value : Says first item second) (after : Blanks second (']' :: rest)) :
      SaysItems text [item] rest
  | cons {text first second third rest : List Char} {item : WrittenJson}
      {items : List WrittenJson} (before : Blanks text first) (value : Says first item second)
      (after : Blanks second (',' :: third)) (later : SaysItems third items rest) :
      SaysItems text (item :: items) rest

/-- A name, a colon and a value; none if the name cannot be read. -/
inductive SaysMember : List Char → Option (String × WrittenJson) → List Char → Prop
  | member {text first second third fourth fifth rest : List Char} {name : Option (List Char)}
      {written : WrittenJson} (before : Blanks text ('"' :: first))
      (isName : SaysString first name second) (colon : Blanks second (':' :: third))
      (blanks : Blanks third fourth) (value : Says fourth written fifth)
      (after : Blanks fifth rest) :
      SaysMember text (name.map fun name => (String.ofList name, written)) rest

/-- The members of an object up to its closing bracket, at least one; none if a name cannot be
read. -/
inductive SaysMembers : List Char → Option (List (String × WrittenJson)) → List Char → Prop
  | last {text rest : List Char} {named : Option (String × WrittenJson)}
      (member : SaysMember text named ('\x7d' :: rest)) :
      SaysMembers text (named.map ([·])) rest
  | cons {text later rest : List Char} {named : Option (String × WrittenJson)}
      {members : Option (List (String × WrittenJson))}
      (member : SaysMember text named (',' :: later)) (others : SaysMembers later members rest) :
      SaysMembers text (named.bind fun named => members.map (named :: ·)) rest

end

/-- The text says a value between blanks, and nothing else. -/
def IsText (text : String) (written : WrittenJson) : Prop :=
  ∃ first second, Blanks text.toList first ∧ Says first written second ∧ Blanks second []

end Json

/-! ### The value of what is written -/

namespace WrittenJson

mutual

/-- No part is unreadable, and at most `levels` arrays and objects stand inside each other. -/
def Within (levels : Nat) : WrittenJson → Prop
  | null | bool _ | integer _ | double _ | string _ => True
  | array items => 0 < levels ∧ ItemsWithin (levels - 1) items
  | object members => 0 < levels ∧ MembersWithin (levels - 1) members
  | unreadable => False

def ItemsWithin (levels : Nat) : List WrittenJson → Prop
  | [] => True
  | item :: rest => Within levels item ∧ ItemsWithin levels rest

def MembersWithin (levels : Nat) : List (String × WrittenJson) → Prop
  | [] => True
  | (_, value) :: rest => Within levels value ∧ MembersWithin levels rest

end

mutual

/-- The value: the members of an object in the order of their names, of repeated names the last one.
A part that is unreadable has no value and stands as `null` here. -/
def json : WrittenJson → Json
  | null | unreadable => .null
  | bool value => .bool value
  | integer value => .integer value
  | double value => .double value
  | string value => .string value
  | array items => .array (itemsJson items)
  | object members => .ofTable (.ofList (membersJson members))

def itemsJson : List WrittenJson → List Json
  | [] => []
  | item :: rest => json item :: itemsJson rest

def membersJson : List (String × WrittenJson) → List (String × Json)
  | [] => []
  | (name, value) :: rest => (name, json value) :: membersJson rest

end

end WrittenJson

end DeviceMapping
