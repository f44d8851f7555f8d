/-
**Elementary functions and roots.**

`expMinusOne` and `logOnePlus` keep the digits that `exp x - 1` and `log (1 + x)` lose where `x` is
small. Both take whole powers of two out of their argument and approximate the rest by a quotient of
polynomials; the products and sums of these are fused, so that each pair is rounded once.
`cubeRoot` is exact up to its one rounding, `hypotenuse` mends the rounded root of a sum of squares
by what the rounding left over.
-/

import DeviceMapping.Decimal.Rounding

namespace DeviceMapping

namespace Binary64

/-- A finite double as a signed mantissa and a power of two. -/
def decodeSigned (value : Float) : Int × Int :=
  let decoded := decode (magnitudeBits value)
  (if isNegative value then -decoded.1 else decoded.1, decoded.2)

/-- The product of two numbers plus a third, rounded once. Exact sums of zero are positive zero. -/
def fusedMultiplyAdd (x y z : Float) : Float :=
  if !(x.isFinite && y.isFinite && z.isFinite) then x * y + z
  else if x == 0 || y == 0 then x * y + z
  else
    let first := decodeSigned x
    let second := decodeSigned y
    let third := decodeSigned z
    let last := min (first.2 + second.2) third.2
    let sum := first.1 * second.1 * Nat.pow 2 (first.2 + second.2 - last).toNat +
      third.1 * Nat.pow 2 (third.2 - last).toNat
    let ratio := divPower 2 (-last) sum.natAbs 1
    ofBits (decide (sum < 0)) (bitsOfRatio ratio.1 ratio.2)

/-- A number times a power of two, where both it and the result are normal. -/
def shiftExponent (value : Float) (exponent : Int) : Float :=
  ofBits (isNegative value) ((magnitudeBits value : Int) + exponent * mantissaRange).toNat

/-- The exponent of a normal number. -/
def exponentOf (value : Float) : Int :=
  (magnitudeBits value / mantissaRange : Nat) - 1023

end Binary64

namespace Formula.Function

open Binary64 (fusedMultiplyAdd)

/-- The leading bits of the logarithm of two; products with whole exponents are exact. -/
def logTwoHigh : Float := 6.93147180369123816490e-01

/-- What `logTwoHigh` leaves of the logarithm of two. -/
def logTwoLow : Float := 1.90821492927058770002e-10

/-- The double of these bits. -/
def threshold (bits : Nat) : Float := Binary64.ofBits false bits

/-- An argument of the exponential without its whole powers of two: the rest, what the rest lost by
rounding, and the exponent. -/
structure ReducedExponent where
  rest : Float
  lost : Float
  exponent : Int

/-- Takes the whole powers of two out of an argument of the exponential. -/
def reduceExponent (x : Float) : ReducedExponent :=
  let length := x.abs
  if length < threshold 0x3FD62E4300000000 then ⟨x, 0, 0⟩
  else
    let exponent : Int :=
      if length < threshold 0x3FF0A2B200000000 then (if x < 0 then -1 else 1)
      else (1.44269504088896338700 * x + (if x < 0 then -0.5 else 0.5)).toInt64.toInt
    let count := Float.ofInt exponent
    let high := fusedMultiplyAdd (-count) logTwoHigh x
    let low := count * logTwoLow
    let rest := high - low
    ⟨rest, (high - rest) - low, exponent⟩

/-- `exp x - 1` for a reduced argument. -/
def expMinusOneReduced (argument : ReducedExponent) : Float :=
  let x := argument.rest
  let half := 0.5 * x
  let square := x * half
  let fourth := square * square
  let first := fusedMultiplyAdd square (-3.33333333333331316428e-02) 1
  let second := fusedMultiplyAdd square (-7.93650757867487942473e-05) 1.58730158725481460165e-03
  let third := fusedMultiplyAdd square (-2.01099218183624371326e-07) 4.00821782732936239552e-06
  let series := fusedMultiplyAdd (fourth * fourth) third (fusedMultiplyAdd fourth second first)
  let weight := fusedMultiplyAdd (-half) series 3
  let correction := square * ((series - weight) / fusedMultiplyAdd (-weight) x 6)
  if argument.exponent = 0 then x - fusedMultiplyAdd x correction (-square)
  else
    let excess := fusedMultiplyAdd x (correction - argument.lost) (-argument.lost) - square
    let exponent := argument.exponent
    if exponent = -1 then fusedMultiplyAdd (x - excess) 0.5 (-0.5)
    else if exponent = 1 then
      if x < -0.25 then -2 * (excess - (x + 0.5)) else fusedMultiplyAdd (x - excess) 2 1
    else if exponent ≤ -2 || 56 < exponent then
      Binary64.shiftExponent (1 - (excess - x)) exponent - 1
    else
      let unit := Binary64.shiftExponent 1 (-exponent)
      if exponent < 20 then Binary64.shiftExponent ((1 - unit) - (excess - x)) exponent
      else Binary64.shiftExponent ((x - (excess + unit)) + 1) exponent

/-- `exp x - 1` without losing the digits of a small `x`. -/
def expMinusOne (x : Float) : Float :=
  if x.isNaN then x
  else if 7.09782712893383973096e+02 < x then 1.0 / 0.0
  else if x ≤ -threshold 0x4043687A00000000 then -1
  else if x.abs < threshold 0x3C90000000000000 then x
  else expMinusOneReduced (reduceExponent x)

/-- The logarithm of `2 ^ exponent * (1 + x)` for an `x` so small that its cube does not count; the
term `lost` was rounded away from the argument. -/
def logNearPower (exponent : Int) (x lost : Float) : Float :=
  let count := Float.ofInt exponent
  let tail := fusedMultiplyAdd count logTwoLow lost
  let square := 0.5 * x * x * fusedMultiplyAdd (-x) 0.66666666666666666 1
  if x == 0 then (if exponent = 0 then 0 else fusedMultiplyAdd count logTwoHigh tail)
  else if exponent = 0 then x - square
  else fusedMultiplyAdd count logTwoHigh (-((square - tail) - x))

/-- The logarithm of `2 ^ exponent * (1 + x)`, where the term `lost` was rounded away from the
argument. -/
def logOnePlusReduced (exponent : Int) (x lost : Float) : Float :=
  let count := Float.ofInt exponent
  let halfSquare := 0.5 * x * x
  let quotient := x / (2 + x)
  let square := quotient * quotient
  let fourth := square * square
  let eighth := fourth * fourth
  let first := fusedMultiplyAdd square 2.857142874366239149e-01 3.999999999940941908e-01
  let second := fusedMultiplyAdd square 1.818357216161805012e-01 2.222219843214978396e-01
  let third := fusedMultiplyAdd square 1.479819860511658591e-01 1.531383769920937332e-01
  let series := fusedMultiplyAdd (fourth * eighth) third (fusedMultiplyAdd eighth second
    (fusedMultiplyAdd square 6.666666666666735130e-01 (fourth * first)))
  let product := quotient * (halfSquare + series)
  if exponent = 0 then x - (halfSquare - product)
  else
    let tail := fusedMultiplyAdd count logTwoLow lost
    fusedMultiplyAdd count logTwoHigh (-((halfSquare - (tail + product)) - x))

/-- `log (1 + x)` without losing the digits of a small `x`. -/
def logOnePlus (x : Float) : Float :=
  if x == -1 then -1.0 / 0.0
  else if x.isNaN || x < -1 then 0.0 / 0.0
  else if x.isInf then x
  else if x.abs < threshold 0x3C90000000000000 then x
  else if x.abs < threshold 0x3E20000000000000 then x - x * x * 0.5
  else if -threshold 0x3FD2BEC400000000 < x && x < threshold 0x3FDA827A00000000 then
    logOnePlusReduced 0 x 0
  else
    let large : Bool := threshold 0x4340000000000000 ≤ x
    let sum := if large then x else 1 + x
    let power := Binary64.exponentOf sum
    let lost := if large then 0 else (if 0 < power then 1 - (sum - x) else x - (sum - 1)) / sum
    let mantissa := Binary64.shiftExponent sum (-power)
    let exponent := if mantissa < threshold 0x3FF6A09E00000000 then power else power + 1
    let rest := (if exponent = power then mantissa else 0.5 * mantissa) - 1
    if -threshold 0x3EB8000000000000 ≤ rest && rest < threshold 0x3EB0000000000000 then
      logNearPower exponent rest lost
    else logOnePlusReduced exponent rest lost

/-! ### Roots -/

/-- The greatest natural number below `base + 2 ^ bits` whose cube is at most a number, if that of
`base` is at most that. -/
def cubeRootFrom (number : Nat) : Nat → Nat → Nat
  | 0, base => base
  | bits + 1, base =>
    let next := base + Nat.pow 2 bits
    cubeRootFrom number bits (if next.pow 3 ≤ number then next else base)

/-- The cube root of `mantissa * 2 ^ exponent`, rounded to the nearest double. The mantissa is
scaled by a power of two until its root has more bits than a double; half a unit stands for the part
that the root leaves over. -/
def nearestCubeRoot (mantissa : Nat) (exponent : Int) : Nat :=
  let scale : Nat := 180 + (exponent % 3).toNat
  let number := mantissa * Nat.pow 2 scale
  let root := cubeRootFrom number (number.log2 / 3 + 1) 0
  let doubled := if root.pow 3 = number then 2 * root else 2 * root + 1
  let ratio := Binary64.divPower 2 ((scale - exponent) / 3) doubled 2
  Binary64.bitsOfRatio ratio.1 ratio.2

/-- The cube root, rounded to the nearest double. -/
def cubeRoot (x : Float) : Float :=
  if x == 0 || !x.isFinite then x
  else
    let decoded := Binary64.decode (Binary64.magnitudeBits x)
    Binary64.ofBits (Binary64.isNegative x) (nearestCubeRoot decoded.1 decoded.2)

/-- The root of the sum of two squares, where neither square is lost or without an end: the rounded
root less its error, which the squares tell. -/
def hypotenuseOfScaled (longer shorter : Float) : Float :=
  let root := (longer * longer + shorter * shorter).sqrt
  let error :=
    if root ≤ 2 * shorter then
      let excess := root - shorter
      longer * (2 * excess - longer) + (excess - 2 * (longer - shorter)) * excess
    else
      let excess := root - longer
      2 * excess * (longer - 2 * shorter) +
        ((4 * excess - shorter) * shorter + excess * excess)
  root - error / (2 * root)

/-- The length of the diagonal of a rectangle; a side without an end decides alone, and beside a
far longer side a shorter one counts no more than its rounding. -/
def hypotenuse (x y : Float) : Float :=
  if x.isInf || y.isInf then 1.0 / 0.0
  else if x.isNaN || y.isNaN then 0.0 / 0.0
  else
    let longer := if x.abs < y.abs then y.abs else x.abs
    let shorter := if x.abs < y.abs then x.abs else y.abs
    let scale := Binary64.shiftExponent 1 600
    if shorter ≤ longer * Binary64.shiftExponent 1 (-54) then longer + shorter
    else if Binary64.shiftExponent 1 511 < longer then
      hypotenuseOfScaled (longer / scale) (shorter / scale) * scale
    else if shorter < Binary64.shiftExponent 1 (-459) then
      hypotenuseOfScaled (longer * scale) (shorter * scale) / scale
    else hypotenuseOfScaled longer shorter

end Formula.Function

end DeviceMapping
