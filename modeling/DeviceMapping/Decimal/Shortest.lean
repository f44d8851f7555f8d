/-
**The shortest decimal that reads back.**

For a finite double the decimals of one last place form a grid. `shortest` walks from a grid coarser
than the double to finer ones and takes the first grid on which a neighbour of the double rounds
back to it: of two such neighbours the nearer, of two equally near the even one. So no decimal with
fewer digits reads back, and the digits are the best of that length.
-/

import DeviceMapping.Decimal.Rounding

namespace DeviceMapping.Binary64

/-- The double itself as a decimal, digit for digit. -/
def exactDecimal (bits : Nat) : Decimal :=
  let decoded := decode bits
  match decoded.2 with
  | .ofNat n => ⟨decoded.1 * Nat.pow 2 n, 0⟩
  | .negSucc n => ⟨decoded.1 * Nat.pow 5 (n + 1), .negSucc n⟩

/-- The best decimal with this last place that reads back as these bits. -/
def nearestAt (bits : Nat) (place : Int) : Option Decimal :=
  let ratio := ratioOfBits bits
  let scaled := divPower 10 place ratio.1 ratio.2
  let below : Decimal := ⟨scaled.1 / scaled.2, place⟩
  let above : Decimal := ⟨scaled.1 / scaled.2 + 1, place⟩
  if below.bits = bits then
    if above.bits = bits then some ⟨divRound scaled.1 scaled.2, place⟩ else some below
  else if above.bits = bits then some above
  else none

/-- The first grid, from a last place downwards, with a decimal that reads back. -/
def searchPlaces (bits : Nat) : Nat → Int → Decimal
  | 0, _ => exactDecimal bits
  | places + 1, place => (nearestAt bits place).getD (searchPlaces bits places (place - 1))

/-- A power of ten above the finite double of these bits. -/
def placeAbove (bits : Nat) : Int :=
  let decoded := decode bits
  (decoded.2 + decoded.1.log2) * 30103 / 100000 + 2

/-- The shortest decimal that reads back as a finite double; seventeen digits always do. -/
def shortest (bits : Nat) : Decimal :=
  if bits = 0 then ⟨0, 0⟩ else searchPlaces bits 22 (placeAbove bits)

end DeviceMapping.Binary64
