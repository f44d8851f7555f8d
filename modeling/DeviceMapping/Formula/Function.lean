/-
**The functions of expressions.**

`unary?` are the functions of one number: they read whole numbers as doubles and give doubles.
`builtin?` are the others, each with the kinds of arguments it takes. A call passes one value; of
several arguments, a tuple.
-/

import DeviceMapping.Formula.Elementary
import DeviceMapping.Formula.Value
import DeviceMapping.Text.Blank
import DeviceMapping.Text.Case

namespace DeviceMapping.Formula.Function

/-! ### Functions of doubles -/

/-- The sign of a number: zero for zero, and no number for no number. -/
def signum (x : Float) : Float :=
  if x == 0 || x.isNaN then x else if x < 0 then -1 else 1

/-- The remainder of a division rounded toward zero, with the sign of the dividend. It is exact:
both numbers are multiples of one power of two, and so is the remainder. -/
def remainder (x y : Float) : Float :=
  if !x.isFinite || y.isNaN || y == 0 then 0.0 / 0.0
  else if !y.isFinite then x
  else
    let dividend := Binary64.decode (Binary64.magnitudeBits x)
    let divisor := Binary64.decode (Binary64.magnitudeBits y)
    let last := min dividend.2 divisor.2
    let rest := (dividend.1 * Nat.pow 2 (dividend.2 - last).toNat) %
      (divisor.1 * Nat.pow 2 (divisor.2 - last).toNat)
    let ratio := Binary64.divPower 2 (-last) rest 1
    Binary64.ofBits (Binary64.isNegative x) (Binary64.bitsOfRatio ratio.1 ratio.2)

/-- A double that is neither zero nor subnormal, and finite. -/
def isNormal (x : Float) : Bool :=
  let bits := Binary64.magnitudeBits x
  Binary64.mantissaRange ≤ bits && bits < Binary64.infinityBits

/-- The smaller of two numbers, the first of equal ones; of a number and no number, the number. -/
def smaller (x y : Float) : Float :=
  if x.isNaN || y < x then y else x

/-- The greater of two numbers, the first of equal ones; of a number and no number, the number. -/
def greater (x y : Float) : Float :=
  if x.isNaN || x < y then y else x

/-- The functions of one number that give a double. -/
def unary? (name : String) : Option (Float → Float) :=
  match name with
  | "abs" => some Float.abs
  | "acos" => some Float.acos
  | "asin" => some Float.asin
  | "atan" => some Float.atan
  | "cbrt" => some cubeRoot
  | "ceil" => some Float.ceil
  | "cos" => some Float.cos
  | "cosh" => some Float.cosh
  | "exp" => some Float.exp
  | "expm1" => some expMinusOne
  | "floor" => some Float.floor
  | "log" => some Float.log
  | "log10" => some Float.log10
  | "log1p" => some logOnePlus
  | "log2" => some Float.log2
  | "signum" => some signum
  | "sin" => some Float.sin
  | "sinh" => some Float.sinh
  | "sqrt" => some Float.sqrt
  | "tan" => some Float.tan
  | "tanh" => some Float.tanh
  | "round" => some Float.round
  | "math::ln" => some Float.log
  | "math::log2" => some Float.log2
  | "math::log10" => some Float.log10
  | "math::exp" => some Float.exp
  | "math::exp2" => some Float.exp2
  | "math::cos" => some Float.cos
  | "math::acos" => some Float.acos
  | "math::cosh" => some Float.cosh
  | "math::acosh" => some Float.acosh
  | "math::sin" => some Float.sin
  | "math::asin" => some Float.asin
  | "math::sinh" => some Float.sinh
  | "math::asinh" => some Float.asinh
  | "math::tan" => some Float.tan
  | "math::atan" => some Float.atan
  | "math::tanh" => some Float.tanh
  | "math::atanh" => some Float.atanh
  | "math::sqrt" => some Float.sqrt
  | "math::cbrt" => some cubeRoot
  | _ => none

/-- The functions of two numbers that give a double. -/
def ofTwo? (name : String) : Option (Float → Float → Float) :=
  match name with
  | "math::log" => some fun x base => x.log / base.log
  | "math::pow" => some Float.pow
  | "math::atan2" => some Float.atan2
  | "math::hypot" => some hypotenuse
  | _ => none

/-- The tests of a number. -/
def test? (name : String) : Option (Float → Bool) :=
  match name with
  | "math::is_nan" => some Float.isNaN
  | "math::is_finite" => some Float.isFinite
  | "math::is_infinite" => some Float.isInf
  | "math::is_normal" => some isNormal
  | _ => none

/-! ### Functions of whole numbers -/

/-- The functions of two whole numbers, on words of 64 bits. -/
def onWords? (name : String) : Option (Int64 → Int64 → Int64) :=
  match name with
  | "bitand" => some (· &&& ·)
  | "bitor" => some (· ||| ·)
  | "bitxor" => some (· ^^^ ·)
  | "shl" => some (· <<< ·)
  | "shr" => some (· >>> ·)
  | _ => none

/-! ### Functions of tuples and texts -/

/-- The least whole number and the least double of a tuple of numbers, compared as doubles. -/
def least? (items : List Value) : Option Value := do
  let least ← items.foldlM (fun (least : Int × Float) item =>
    match item with
    | .float value => some (least.1, smaller least.2 value)
    | .whole value => some (min least.1 value, least.2)
    | _ => none) (0x7FFFFFFFFFFFFFFF, 1.0 / 0.0)
  some (if Float.ofInt least.1 < least.2 then .whole least.1 else .float least.2)

/-- The greatest whole number and the greatest double of a tuple of numbers, compared as doubles. -/
def greatest? (items : List Value) : Option Value := do
  let greatest ← items.foldlM (fun (greatest : Int × Float) item =>
    match item with
    | .float value => some (greatest.1, greater greatest.2 value)
    | .whole value => some (max greatest.1 value, greatest.2)
    | _ => none) (-0x8000000000000000, -1.0 / 0.0)
  some (if greatest.2 < Float.ofInt greatest.1 then .whole greatest.1 else .float greatest.2)

/-- The value is an item of the tuple. -/
def isItem (items : List Value) (value : Value) : Bool :=
  items.any fun item => item.same value

/-- The part of a text between two positions in bytes, which must lie between characters. -/
def substring? (text : String) (start stop : Int) : Option String :=
  let bytes := text.toUTF8
  if 0 ≤ start ∧ start ≤ stop ∧ stop ≤ bytes.size then
    String.fromUTF8? (bytes.extract start.toNat stop.toNat)
  else none

/-- The functions that look at the kinds of their arguments. -/
def general? (name : String) (argument : Value) : Option Value :=
  match name with
  | "math::abs" =>
    match argument with
    | .float value => some (.float value.abs)
    | .whole value => some (.whole (Int64.ofInt value.natAbs).toInt)
    | _ => none
  | "typeof" => some (.text argument.kind)
  | "min" => argument.items?.bind least?
  | "max" => argument.items?.bind greatest?
  | "if" =>
    match argument with
    | .tuple [.boolean condition, whenTrue, whenFalse] =>
      some (if condition then whenTrue else whenFalse)
    | _ => none
  | "contains" =>
    match argument with
    | .tuple [.tuple items, value] =>
      if value.isScalar then some (.boolean (isItem items value)) else none
    | _ => none
  | "contains_any" =>
    match argument with
    | .tuple [.tuple items, .tuple values] =>
      if values.all Value.isScalar then some (.boolean (values.any (isItem items))) else none
    | _ => none
  | "len" =>
    match argument with
    | .text value => some (.whole value.utf8ByteSize)
    | .tuple items => some (.whole items.length)
    | _ => none
  | "str::to_lowercase" => argument.text?.map fun text => .text (Text.toLower text)
  | "str::to_uppercase" => argument.text?.map fun text => .text (Text.toUpper text)
  | "str::trim" => argument.text?.map fun text => .text (Text.trim text)
  | "str::from" =>
    match argument with
    | .text value => some (.text value)
    | value => some (.text value.render)
  | "str::substring" =>
    match argument with
    | .tuple [.text text, .whole start] => (substring? text start text.utf8ByteSize).map .text
    | .tuple [.text text, .whole start, .whole stop] => (substring? text start stop).map .text
    | _ => none
  | "bitnot" => argument.integer?.map fun value => .whole (~~~(Int64.ofInt value)).toInt
  | _ => none

/-- The value of a call, if the function is known and takes such an argument. -/
def call? (name : String) (argument : Value) : Option Value :=
  match unary? name with
  | some function => argument.number?.map fun x => .float (function x)
  | none =>
    match test? name with
    | some test => argument.number?.map fun x => .boolean (test x)
    | none =>
      match ofTwo? name, onWords? name, argument with
      | some function, _, .tuple [first, second] => do
        some (.float (function (← first.number?) (← second.number?)))
      | none, some function, .tuple [.whole first, .whole second] =>
        some (.whole (function (Int64.ofInt first) (Int64.ofInt second)).toInt)
      | none, none, _ => general? name argument
      | _, _, _ => none

end DeviceMapping.Formula.Function
