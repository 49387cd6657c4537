/-!
# Sets of characters

A property of characters is a set of code points, which a table gives as ranges in
rising order.
-/

namespace ProtocolTypes

/-- A set of code points: ranges in rising order, both ends included. -/
structure PointSet where
  ranges : List (Nat × Nat)

namespace PointSet

/-- Whether a point lies in one of the ranges; the search ends at the first range that
begins behind it. -/
def liesIn (point : Nat) : List (Nat × Nat) → Bool
  | [] => false
  | (first, last) :: later => first ≤ point && (point ≤ last || liesIn point later)

/-- Whether a character is in the set. -/
def contains (set : PointSet) (character : Char) : Bool :=
  liesIn character.toNat set.ranges

end PointSet
end ProtocolTypes
