/-
**Texts of numbers.**

Writing: `Decimal.positional` is plain decimal text with a fraction, `Decimal.compact` the same for
moderate sizes and `d.ddde±k` beyond them. `Float.plainText` and `Float.compactText` write doubles
through their shortest decimal.

Reading: `readFloat?` takes an optional sign, then `inf`, `infinity` or `nan` in any case, or digits
with an optional point and an optional exponent; nothing may follow.
-/

import DeviceMapping.Decimal.Shortest

namespace DeviceMapping

/-- The decimal digits of a natural number. -/
def digitsOf (n : Nat) : List Char :=
  Nat.toDigits 10 n

/-- The value of a run of decimal digits. -/
def digitsValue (digits : List Char) : Nat :=
  digits.foldl (fun value digit => 10 * value + (digit.toNat - '0'.toNat)) 0

namespace Decimal

/-- Plain decimal text: at least one digit on either side of the point, no exponent. -/
def positional (decimal : Decimal) : List Char :=
  match decimal.exponent with
  | .ofNat n => digitsOf (decimal.digits * Nat.pow 10 n) ++ ['.', '0']
  | .negSucc n =>
    let unit := Nat.pow 10 (n + 1)
    let fraction := digitsOf (decimal.digits % unit)
    digitsOf (decimal.digits / unit) ++
      '.' :: (List.replicate (n + 1 - fraction.length) '0' ++ fraction)

/-- Plain decimal text without a fraction where the number is whole. -/
def plain (decimal : Decimal) : List Char :=
  match decimal.exponent with
  | .ofNat n => digitsOf (decimal.digits * Nat.pow 10 n)
  | .negSucc _ => decimal.positional

/-- One digit, the others after a point, and the power of ten with its sign. -/
def scientific (decimal : Decimal) : List Char :=
  let digits := digitsOf decimal.digits
  let power := decimal.exponent + (digits.length - 1 : Nat)
  let mantissa := match digits with
    | first :: second :: rest => first :: '.' :: second :: rest
    | short => short
  mantissa ++ 'e' :: (if power < 0 then '-' else '+') :: digitsOf power.natAbs

/-- Positional from `10 ^ (-5)` up to below `10 ^ 16`, scientific beyond. -/
def compact (decimal : Decimal) : List Char :=
  let power := decimal.exponent + ((digitsOf decimal.digits).length - 1 : Nat)
  if decimal.digits = 0 ∨ (-5 ≤ power ∧ power < 16) then decimal.positional
  else decimal.scientific

end Decimal

/-- A double written with the given layout of its shortest decimal, and words for the values that
are not finite. -/
def floatText (layout : Decimal → List Char) (value : Float) : String :=
  if value.isNaN then "NaN"
  else
    let bits := Binary64.magnitudeBits value
    let magnitude :=
      if bits < Binary64.infinityBits then layout (Binary64.shortest bits) else "inf".toList
    String.ofList (if Binary64.isNegative value then '-' :: magnitude else magnitude)

/-- A double as plain text: no exponent, no fraction where it is whole. -/
def plainFloatText (value : Float) : String :=
  floatText Decimal.plain value

/-- A double as compact text: always a fraction or an exponent. -/
def compactFloatText (value : Float) : String :=
  floatText Decimal.compact value

/-! ### Reading -/

/-- The sign before a text: `true` for minus. -/
def splitSign : List Char → Bool × List Char
  | '-' :: rest => (true, rest)
  | '+' :: rest => (false, rest)
  | rest => (false, rest)

/-- A text of digits only, at least one, and its value. -/
def readDigits? (text : List Char) : Option Nat :=
  if text ≠ [] ∧ text.all Char.isDigit then some (digitsValue text) else none

/-- The exponent at the end of a number: nothing, or `e` with a signed run of digits. -/
def readExponent? : List Char → Option Int
  | [] => some 0
  | mark :: rest =>
    if mark = 'e' ∨ mark = 'E' then
      let signed := splitSign rest
      (readDigits? signed.2).map fun n => if signed.1 then -(n : Int) else n
    else none

/-- Digits with an optional point and an optional exponent, at least one digit before it. -/
def readDecimal? (text : List Char) : Option Decimal :=
  let whole := text.takeWhile Char.isDigit
  let afterWhole := text.dropWhile Char.isDigit
  let pointed := afterWhole.head? == some '.'
  let afterPoint := if pointed then afterWhole.drop 1 else afterWhole
  let fraction := if pointed then afterPoint.takeWhile Char.isDigit else []
  let rest := if pointed then afterPoint.dropWhile Char.isDigit else afterPoint
  if whole.isEmpty && fraction.isEmpty then none
  else (readExponent? rest).map fun exponent =>
    ⟨digitsValue (whole ++ fraction), exponent - fraction.length⟩

/-- The words for the values that are not finite. -/
def readSpecial? (negative : Bool) (text : List Char) : Option Float :=
  let word := String.ofList (text.map Char.toLower)
  if word == "inf" || word == "infinity" then
    some (Binary64.ofBits negative Binary64.infinityBits)
  else if word == "nan" then some (0.0 / 0.0)
  else none

/-- The double that a text spells. -/
def readFloat? (text : List Char) : Option Float :=
  let signed := splitSign text
  match readSpecial? signed.1 signed.2 with
  | some value => some value
  | none => (readDecimal? signed.2).map (Decimal.toFloat signed.1)

end DeviceMapping
