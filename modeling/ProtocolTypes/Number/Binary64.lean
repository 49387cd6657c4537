/-!
# Binary64 numbers from exact ones

The nearest binary64 number to a quotient of natural numbers, a tie going to the
even neighbour, and the exact value of a binary64 number.  Everything is integer
arithmetic on the encoding, so no rounding of the machine is relied upon.
-/

namespace ProtocolTypes
namespace Binary64

/-- The rounded quotient, a tie going to the even neighbour. -/
def roundQuotient (numerator denominator : Nat) : Nat :=
  let quotient := numerator / denominator
  let twice := 2 * (numerator % denominator)
  if denominator < twice || (twice == denominator && quotient % 2 == 1) then quotient + 1
  else quotient

/-- The quotient over the `exponent`-th power of two, as a pair of natural numbers. -/
def scaleBy (exponent : Int) (numerator denominator : Nat) : Nat × Nat :=
  if 0 ≤ exponent then (numerator, denominator * Nat.pow 2 exponent.toNat)
  else (numerator * Nat.pow 2 (-exponent).toNat, denominator)

/-- The exponent of the last place of the number nearest to a positive quotient. -/
def lastPlace (numerator denominator : Nat) : Int :=
  let guess : Int := (numerator.log2 : Int) - (denominator.log2 : Int) - 53
  let (scaledNumerator, scaledDenominator) := scaleBy guess numerator denominator
  let raised := if scaledNumerator / scaledDenominator < Nat.pow 2 53 then guess else guess + 1
  max raised (-1074)

/-- The encoding of positive infinity. -/
def infinityBits : UInt64 := 0x7FF0000000000000

/-- The encoding of the number nearest to a quotient that is not negative. -/
def nearestBits (numerator denominator : Nat) : UInt64 :=
  if numerator = 0 then 0
  else
    let place := lastPlace numerator denominator
    let (scaledNumerator, scaledDenominator) := scaleBy place numerator denominator
    let rounded := roundQuotient scaledNumerator scaledDenominator
    let (significand, exponent) :=
      if rounded = Nat.pow 2 53 then (Nat.pow 2 52, place + 1) else (rounded, place)
    if 971 < exponent then infinityBits
    else if significand < Nat.pow 2 52 then significand.toUInt64
    else ((exponent + 1075).toNat.toUInt64 <<< 52) + (significand - Nat.pow 2 52).toUInt64

/-- The number nearest to `significand * 10 ^ exponent`, with that sign.  Exponents far
outside the range are cut short: their result is already zero or infinite. -/
def ofDecimal (negative : Bool) (significand : Nat) (exponent : Int) : Float :=
  let digits : Int := (Nat.toDigits 10 significand).length
  let magnitude :=
    if significand = 0 then 0
    else if 400 < exponent + digits then infinityBits
    else if exponent + digits < -400 then 0
    else if 0 ≤ exponent then nearestBits (significand * Nat.pow 10 exponent.toNat) 1
    else nearestBits significand (Nat.pow 10 (-exponent).toNat)
  Float.ofBits (if negative then magnitude ||| 0x8000000000000000 else magnitude)

/-- The number nearest to an integer; one beyond the range has none. -/
def ofInt? (value : Int) : Option Float :=
  let magnitude := nearestBits value.natAbs 1
  if magnitude == infinityBits then none
  else some (Float.ofBits (if value < 0 then magnitude ||| 0x8000000000000000 else magnitude))

/-- A finite number: its sign, and its magnitude `significand * 2 ^ exponent`. -/
structure Finite where
  negative : Bool
  significand : Nat
  exponent : Int
  deriving Repr

/-- The exact value of a number, unless it is infinite or no number at all. -/
def finite? (number : Float) : Option Finite :=
  let bits := number.toBits
  let negative := bits >>> 63 == 1
  let biased := ((bits >>> 52) &&& 0x7FF).toNat
  let fraction := (bits &&& 0xFFFFFFFFFFFFF).toNat
  if biased = 0x7FF then none
  else if biased = 0 then some ⟨negative, fraction, -1074⟩
  else some ⟨negative, fraction + Nat.pow 2 52, (biased : Int) - 1075⟩

/-- The integer that a number is exactly, if it is one. -/
def toInt? (number : Float) : Option Int :=
  match finite? number with
  | none => none
  | some value =>
    let signed (magnitude : Nat) : Int :=
      if value.negative then -(magnitude : Int) else (magnitude : Int)
    if 0 ≤ value.exponent then some (signed (value.significand * Nat.pow 2 value.exponent.toNat))
    else
      let unit := Nat.pow 2 (-value.exponent).toNat
      if value.significand % unit = 0 then some (signed (value.significand / unit)) else none

/-- The integer part of a finite number, its fraction dropped. -/
def truncate? (number : Float) : Option Int :=
  (finite? number).map fun value =>
    let magnitude : Nat :=
      if 0 ≤ value.exponent then value.significand * Nat.pow 2 value.exponent.toNat
      else value.significand / Nat.pow 2 (-value.exponent).toNat
    if value.negative then -(magnitude : Int) else (magnitude : Int)

end Binary64
end ProtocolTypes
