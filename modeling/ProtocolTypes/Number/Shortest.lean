import ProtocolTypes.Number.Binary64

/-!
# Shortest decimal text of a binary64 number

The fewest significant digits that read back to the same number, and of those the
nearest.  The reals that round to `m * 2 ^ q` form an interval, which holds its ends
exactly when `m` is even; on the grid of each digit count only the two neighbours of
the number need to be tried.
-/

namespace ProtocolTypes
namespace Shortest

/-- A positive decimal number: `digits`, the point in front of them moved right by
`point` places. -/
structure Decimal where
  digits : List Char
  point : Int
  deriving Repr

/-- The exact quotient `numerator / denominator` of an interval's number and ends,
over one denominator. -/
structure Interval where
  low : Nat
  value : Nat
  high : Nat
  denominator : Nat
  closed : Bool

/-- The reals that round to `significand * 2 ^ exponent`. -/
def interval (significand : Nat) (exponent : Int) : Interval :=
  let below := if significand = Nat.pow 2 52 && (-1074 : Int) < exponent then 1 else 2
  let shift := exponent - 2
  let factor := if 0 ≤ shift then Nat.pow 2 shift.toNat else 1
  let denominator := if 0 ≤ shift then 1 else Nat.pow 2 (-shift).toNat
  { low := (4 * significand - below) * factor
    value := 4 * significand * factor
    high := (4 * significand + 2) * factor
    denominator := denominator
    closed := significand % 2 == 0 }

/-- Whether a quotient lies in the interval. -/
def Interval.holds (range : Interval) (numerator denominator : Nat) : Bool :=
  let scaled := numerator * range.denominator
  if range.closed then
    range.low * denominator ≤ scaled && scaled ≤ range.high * denominator
  else
    range.low * denominator < scaled && scaled < range.high * denominator

/-- The number of places in front of the point of a positive quotient: the least `k`
with the quotient below `10 ^ k`, looked for upward from a lower bound. -/
def leadingPlaces (numerator denominator : Nat) : Nat → Int → Int
  | 0, guess => guess
  | fuel + 1, guess =>
    let below :=
      if 0 ≤ guess then numerator < denominator * Nat.pow 10 guess.toNat
      else numerator * Nat.pow 10 (-guess).toNat < denominator
    if below then guess else leadingPlaces numerator denominator fuel (guess + 1)

/-- A lower bound of the number of leading places, from the binary size. -/
def leadingPlacesBound (numerator denominator : Nat) : Int :=
  let size : Int := (numerator.log2 : Int) - (denominator.log2 : Int)
  size * 30103 / 100000 - 2

/-- The grid points next to the number with `count` digits that read back, the nearer
one first. -/
def candidate? (range : Interval) (places : Int) (count : Nat) : Option Nat :=
  let step := places - count
  let (gridNumerator, gridDenominator) : Nat × Nat :=
    if 0 ≤ step then (Nat.pow 10 step.toNat, 1) else (1, Nat.pow 10 (-step).toNat)
  let unit := range.denominator * gridNumerator
  let floor := range.value * gridDenominator / unit
  let excess := range.value * gridDenominator % unit
  let fits (point : Nat) := range.holds (point * gridNumerator) gridDenominator
  let upFirst := unit < 2 * excess || (2 * excess == unit && floor % 2 == 1)
  let (first, second) := if upFirst then (floor + 1, floor) else (floor, floor + 1)
  if fits first then some first else if fits second then some second else none

/-- The first digit count from `count` on with a grid point that reads back. -/
def search (range : Interval) (places : Int) : Nat → Nat → Nat × Nat
  | 0, count => (range.value / range.denominator, count)
  | fuel + 1, count =>
    match candidate? range places count with
    | some point => (point, count)
    | none => search range places fuel (count + 1)

/-- The shortest decimal that reads back to `significand * 2 ^ exponent`. -/
def decimal (significand : Nat) (exponent : Int) : Decimal :=
  let range := interval significand exponent
  let bound := leadingPlacesBound range.value range.denominator
  let places := leadingPlaces range.value range.denominator 8 bound
  let (point, count) := search range places 17 1
  let written := Nat.toDigits 10 point
  let kept := (written.reverse.dropWhile (· == '0')).reverse
  ⟨kept, places - count + written.length⟩

end Shortest
end ProtocolTypes
