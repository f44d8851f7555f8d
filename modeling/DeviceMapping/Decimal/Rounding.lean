/-
**Decimal numbers and the doubles nearest to them.**

A decimal is a natural number times a power of ten. `bitsOfRatio` rounds a ratio of naturals to the
nearest double by integer arithmetic alone, a half to the even neighbour, and gives the bits of its
magnitude: mantissa and biased exponent are packed so that a carry out of the mantissa lands in the
exponent. `Decimal.bits` does so for a decimal, `Decimal.toFloat` adds the sign.
-/

namespace DeviceMapping

/-- The number `digits · 10 ^ exponent`. -/
structure Decimal where
  digits : Nat
  exponent : Int
  deriving DecidableEq, Repr, Inhabited

namespace Binary64

/-- A quotient rounded to the nearest natural number, a half to the even one. -/
def divRound (numerator denominator : Nat) : Nat :=
  let quotient := numerator / denominator
  let rest := numerator % denominator
  if 2 * rest < denominator then quotient
  else if denominator < 2 * rest then quotient + 1
  else quotient + quotient % 2

/-- A ratio divided by a power of the base. -/
def divPower (base : Nat) (exponent : Int) (numerator denominator : Nat) : Nat × Nat :=
  match exponent with
  | .ofNat n => (numerator, denominator * base.pow n)
  | .negSucc n => (numerator * base.pow (n + 1), denominator)

/-- The exponent of the greatest power of two that is at most a positive ratio. -/
def floorLog2 (numerator denominator : Nat) : Int :=
  let guess : Int := (numerator.log2 : Int) - denominator.log2
  let scaled := divPower 2 guess numerator denominator
  if scaled.1 < scaled.2 then guess - 1 else guess

/-- The exponent of the last place of every subnormal double. -/
def leastExponent : Int := -1074

/-- The number of mantissas that share one exponent. -/
def mantissaRange : Nat := 0x10000000000000

/-- The bits of positive infinity. -/
def infinityBits : Nat := 0x7FF * mantissaRange

/-- The bits of the sign. -/
def signBit : Nat := 0x8000000000000000

/-- The bits of the double nearest to a ratio; from half a last place past the largest double on
this is infinity. -/
def bitsOfRatio (numerator denominator : Nat) : Nat :=
  if numerator = 0 then 0
  else
    let last := max (floorLog2 numerator denominator - 52) leastExponent
    let scaled := divPower 2 last numerator denominator
    min ((last - leastExponent).toNat * mantissaRange + divRound scaled.1 scaled.2) infinityBits

/-- The finite double of these bits as a mantissa and a power of two. -/
def decode (bits : Nat) : Nat × Int :=
  let biased := bits / mantissaRange
  let fraction := bits % mantissaRange
  if biased = 0 then (fraction, leastExponent)
  else (fraction + mantissaRange, (biased : Int) - 1 + leastExponent)

/-- The finite double of these bits as a ratio. -/
def ratioOfBits (bits : Nat) : Nat × Nat :=
  let decoded := decode bits
  match decoded.2 with
  | .ofNat n => (decoded.1 * Nat.pow 2 n, 1)
  | .negSucc n => (decoded.1, Nat.pow 2 (n + 1))

/-- The bits of a double without its sign. -/
def magnitudeBits (value : Float) : Nat :=
  value.toBits.toNat % signBit

/-- The sign bit of a double is set. -/
def isNegative (value : Float) : Bool :=
  signBit ≤ value.toBits.toNat

/-- The double with these magnitude bits and this sign. -/
def ofBits (negative : Bool) (bits : Nat) : Float :=
  Float.ofBits (UInt64.ofNat (if negative then signBit + bits else bits))

end Binary64

namespace Decimal

/-- The bits of the double nearest to a decimal. Decimals of at least `10 ^ 400` are infinite and
those below `10 ^ (-399)` are zero, whatever their digits; no power of ten is computed for them. -/
def bits (decimal : Decimal) : Nat :=
  if decimal.digits = 0 then 0
  else if 400 < decimal.exponent then Binary64.infinityBits
  else if decimal.exponent + decimal.digits.log2 < -400 then 0
  else match decimal.exponent with
    | .ofNat n => Binary64.bitsOfRatio (decimal.digits * Nat.pow 10 n) 1
    | .negSucc n => Binary64.bitsOfRatio decimal.digits (Nat.pow 10 (n + 1))

/-- The double nearest to a decimal, with a sign. -/
def toFloat (negative : Bool) (decimal : Decimal) : Float :=
  Binary64.ofBits negative decimal.bits

end Decimal

end DeviceMapping
