import ProtocolTypes.Number.Shortest

/-!
# Written form of floats

The shortest digits, laid out positionally where the leading digit stands between
10⁻⁴ and 10¹⁵ and with an exponent outside.  A written float always shows that it is
one: it has a fraction or an exponent, or is one of the three words.
-/

namespace ProtocolTypes
namespace FloatText

/-- The least and the greatest exponent that are written positionally. -/
def positionalExponents : Int × Int := (-4, 15)

/-- The exponent's sign and its digits, at least two of them. -/
def exponentText (exponent : Int) : List Char :=
  let digits := Nat.toDigits 10 exponent.natAbs
  (if exponent < 0 then '-' else '+') :: (if digits.length < 2 then '0' :: digits else digits)

/-- Positional layout: the point after `point` digits, zeros where digits are missing. -/
def positional (digits : List Char) (point : Int) : List Char :=
  if point ≤ 0 then
    '0' :: '.' :: (List.replicate (-point).toNat '0' ++ digits)
  else if digits.length ≤ point.toNat then
    digits ++ List.replicate (point.toNat - digits.length) '0' ++ ['.', '0']
  else
    digits.take point.toNat ++ '.' :: digits.drop point.toNat

/-- Layout with an exponent: one digit in front of the point. -/
def scientific (digits : List Char) (exponent : Int) : List Char :=
  match digits with
  | [] => []
  | [only] => only :: 'e' :: exponentText exponent
  | first :: rest => first :: '.' :: (rest ++ 'e' :: exponentText exponent)

/-- The digits of a positive decimal in the layout that its size calls for. -/
def layout (decimal : Shortest.Decimal) : List Char :=
  let exponent := decimal.point - 1
  if positionalExponents.1 ≤ exponent && exponent ≤ positionalExponents.2 then
    positional decimal.digits decimal.point
  else
    scientific decimal.digits exponent

/-- The written form of a float. -/
def text (number : Float) : String :=
  match Binary64.finite? number with
  | some value =>
    let sign := if value.negative then "-" else ""
    if value.significand = 0 then sign ++ "0.0"
    else sign ++ String.ofList (layout (Shortest.decimal value.significand value.exponent))
  | none =>
    let bits := number.toBits
    if bits == 0x7FF0000000000000 then "inf"
    else if bits == 0xFFF0000000000000 then "-inf"
    else "nan"

end FloatText
end ProtocolTypes
