import ProtocolTypes.Text.Blank
import ProtocolTypes.Text.DecimalDigit

/-!
# Digits

Natural numbers from their digits, and integers from a text in a base: white space
around it, a sign, the mark of the base where there is one, digits of any script, and
single underscores between digits.
-/

namespace ProtocolTypes
namespace Digits

/-- The natural number of decimal digits. -/
def natural (digits : List Char) : Nat :=
  digits.foldl (fun total digit => 10 * total + (digit.toNat - '0'.toNat)) 0

@[simp]
theorem natural_nil : natural [] = 0 := rfl

/-- The value of a digit, the letters counting on from ten. -/
def value? (character : Char) : Option Nat :=
  if '0' ≤ character && character ≤ '9' then some (character.toNat - '0'.toNat)
  else if 'a' ≤ character && character ≤ 'z' then some (character.toNat - 'a'.toNat + 10)
  else if 'A' ≤ character && character ≤ 'Z' then some (character.toNat - 'A'.toNat + 10)
  else none

/-- The value of a digit of a base. -/
def valueIn? (base : Nat) (character : Char) : Option Nat :=
  (value? character).filter fun digit => digit < base

/-- The natural number of digits of a base, of which there is at least one. -/
def naturalIn? (base : Nat) (digits : List Char) : Option Nat :=
  if digits.isEmpty then none
  else digits.foldlM (fun total digit => (valueIn? base digit).map (base * total + ·)) 0

/-- Removes the underscores, each of which has to stand between two other characters. -/
def joinGroups? (text : List Char) : Option (List Char) :=
  let groups := text.splitOn '_'
  if groups.any List.isEmpty then none else some groups.flatten

/-- A sign and what follows it; no sign counts as plus. -/
def sign : List Char → Bool × List Char
  | '-' :: rest => (true, rest)
  | '+' :: rest => (false, rest)
  | text => (false, text)

/-- The number with that sign. -/
def signed (negative : Bool) (magnitude : Nat) : Int :=
  if negative then -(magnitude : Int) else magnitude

/-- The letters that mark a base, after a zero. -/
def markers : Nat → List Char
  | 2 => ['b', 'B']
  | 8 => ['o', 'O']
  | 16 => ['x', 'X']
  | _ => []

/-- What follows the mark of the base, which may be left out. -/
def dropMark (base : Nat) : List Char → List Char
  | '0' :: letter :: rest =>
    if (markers base).contains letter then
      match rest with
      | '_' :: digits => digits
      | digits => digits
    else '0' :: letter :: rest
  | text => text

/-- The most decimal digits of an integer that is read or written. -/
def maxDecimalDigits : Nat := 4300

/-- The decimal text of an integer, unless it has too many digits to be written. -/
def text? (value : Int) : Option String :=
  if value.natAbs < Nat.pow 10 maxDecimalDigits then some (toString value) else none

/-- An integer written in a base. -/
def integer? (base : Nat) (text : List Char) : Option Int := do
  let plain := Text.stripWhile Text.isWhiteSpace (text.map Text.commonDigit)
  let (negative, magnitude) := sign plain
  let digits ← joinGroups? (dropMark base magnitude)
  if base = 10 && maxDecimalDigits < digits.length then none
  else (naturalIn? base digits).map (signed negative)

end Digits
end ProtocolTypes
