import ProtocolTypes.Number.Digits

/-!
# Tokens of literals

Literals write numbers, texts, bytes, a few constants, and collections of them in round
and curly brackets.  Their tokens are told apart here as far as it matters to which of
them may stand side by side.
-/

namespace ProtocolTypes
namespace Literal

/-- The brackets of collections. -/
inductive Bracket
  | round
  | curly
  deriving DecidableEq, Repr

/-- The smallest parts of a literal. -/
inductive Token
  /-- A number without a sign. -/
  | number (isImaginary : Bool)
  /-- Text, or bytes, in quotation marks. -/
  | quoted (isBytes : Bool)
  /-- A truth value, nothing, or three dots. -/
  | constant
  /-- The name of the set that brackets behind it make empty. -/
  | setName
  /-- A plus or a minus. -/
  | sign
  | comma
  | colon
  | opening (bracket : Bracket)
  | closing (bracket : Bracket)
  | lineEnd
  deriving DecidableEq, Repr

/-- Whether a name or a number may go on with a character. -/
def isNameCharacter (character : Char) : Bool :=
  character.isAlphanum || character == '_' || 0x80 ≤ character.toNat

/-! ## Numbers -/

/-- What follows digits of a class with single underscores between them, for text that
has to begin with such a digit or may go on with one. -/
def afterDigits? (isDigit : Char → Bool) : Bool → List Char → Option (List Char)
  | mustHave, [] => if mustHave then none else some []
  | mustHave, character :: rest =>
    if isDigit character then afterDigits? isDigit false rest
    else if mustHave then none
    else if character = '_' then afterDigits? isDigit true rest
    else some (character :: rest)

/-- What follows the digits of a base that are marked, after an underscore or not. -/
def afterMarked? (base : Nat) (text : List Char) : Option (List Char) :=
  let isDigit := fun character => (Digits.valueIn? base character).isSome
  match text with
  | '_' :: rest => afterDigits? isDigit true rest
  | rest => afterDigits? isDigit true rest

/-- What follows the digits of a fraction, of which there may be none. -/
def afterFraction? (text : List Char) : Option (List Char) :=
  match text with
  | digit :: _ => if digit.isDigit then afterDigits? Char.isDigit true text else some text
  | [] => some []

/-- What follows the exponent of a number, behind the letter for it. -/
def afterExponent? (text : List Char) : Option (List Char) :=
  match text with
  | '+' :: rest => afterDigits? Char.isDigit true rest
  | '-' :: rest => afterDigits? Char.isDigit true rest
  | rest => afterDigits? Char.isDigit true rest

/-- Whether digits may stand without a fraction: they are all zeros, or else no zero is in
front and they are not too many. -/
def isWhole (digits : List Char) : Bool :=
  digits.all (· == '0') ||
    (digits.head? != some '0' && digits.length ≤ Digits.maxDecimalDigits)

/-- Whether a number that has got as far as this is imaginary, and what follows it. -/
def numberEnd (text : List Char) : Bool × List Char :=
  match text with
  | 'j' :: rest => (true, rest)
  | 'J' :: rest => (true, rest)
  | rest => (false, rest)

/-- The end of a number behind its point. -/
def fractionEnd? (text : List Char) : Option (Bool × List Char) := do
  let rest ← afterFraction? text
  match rest with
  | 'e' :: exponent => (afterExponent? exponent).map numberEnd
  | 'E' :: exponent => (afterExponent? exponent).map numberEnd
  | _ => return numberEnd rest

/-- Whether a decimal number is imaginary, and what follows it. -/
def decimalEnd? (text : List Char) : Option (Bool × List Char) :=
  match text with
  | '.' :: digit :: rest => if digit.isDigit then fractionEnd? (digit :: rest) else none
  | _ => do
    let rest ← afterDigits? Char.isDigit true text
    let digits := (text.take (text.length - rest.length)).filter Char.isDigit
    match rest with
    | '.' :: fraction => fractionEnd? fraction
    | 'e' :: exponent => (afterExponent? exponent).map numberEnd
    | 'E' :: exponent => (afterExponent? exponent).map numberEnd
    | _ =>
      let (isImaginary, after) := numberEnd rest
      if isImaginary || isWhole digits then return (isImaginary, after) else none

/-- The number at the beginning of a text, and what follows; nothing that a name could go
on with may follow. -/
def number? (text : List Char) : Option (Token × List Char) := do
  let (isImaginary, rest) ←
    match text with
    | '0' :: mark :: digits =>
      if mark = 'x' || mark = 'X' then (afterMarked? 16 digits).map (false, ·)
      else if mark = 'o' || mark = 'O' then (afterMarked? 8 digits).map (false, ·)
      else if mark = 'b' || mark = 'B' then (afterMarked? 2 digits).map (false, ·)
      else decimalEnd? text
    | _ => decimalEnd? text
  if rest.head?.any isNameCharacter then none
  else return (.number isImaginary, rest)

/-! ## Texts and bytes -/

/-- What a prefix makes of a quoted text. -/
structure Quoting where
  /-- Whether backslashes have no meaning, but for keeping a quotation mark. -/
  isRaw : Bool := false
  isBytes : Bool := false
  deriving DecidableEq, Repr

namespace Quoting

/-- The quoting of a prefix. -/
def ofWord? (word : List Char) : Option Quoting :=
  match String.ofList (word.map Char.toLower) with
  | "" => some {}
  | "u" => some {}
  | "r" => some { isRaw := true }
  | "b" => some { isBytes := true }
  | "br" => some { isRaw := true, isBytes := true }
  | "rb" => some { isRaw := true, isBytes := true }
  | _ => none

/-- Whether a text has at least that many hexadecimal digits in front, and they are no
more than the last code point. -/
def hasPoint (count : Nat) (text : List Char) : Bool :=
  (text.take count).length == count &&
    match Digits.naturalIn? 16 (text.take count) with
    | some point => point ≤ 0x10FFFF
    | none => false

/-- Whether a name of a character stands in curly brackets in front of a text. -/
def hasCharacterName (text : List Char) : Bool :=
  match text with
  | '\x7b' :: rest =>
    let name := rest.takeWhile (· != '\x7d')
    !name.isEmpty && name.length < rest.length &&
      name.all fun character => character.isAlphanum || [' ', '-'].contains character
  | _ => false

/-- Whether a backslash may stand in front of a character with a text behind it. -/
def mayEscape (quoting : Quoting) (character : Char) (rest : List Char) : Bool :=
  quoting.isRaw ||
    match character with
    | 'x' => hasPoint 2 rest
    | 'u' => quoting.isBytes || hasPoint 4 rest
    | 'U' => quoting.isBytes || hasPoint 8 rest
    | 'N' => quoting.isBytes || hasCharacterName rest
    | _ => true

/-- Whether a character may stand in quotation marks. -/
def mayHold (quoting : Quoting) (character : Char) : Bool :=
  !quoting.isBytes || character.toNat < 0x80

/-- What follows the closing quotation mark, which is threefold or ends with the line. -/
def bodyEnd? (quoting : Quoting) (mark : Char) (isThreefold : Bool) :
    List Char → Option (List Char)
  | [] => none
  | '\\' :: character :: rest =>
    if quoting.mayHold character && quoting.mayEscape character rest then
      bodyEnd? quoting mark isThreefold rest
    else none
  | character :: rest =>
    if character = mark && (!isThreefold || [mark, mark].isPrefixOf rest) then
      some (if isThreefold then rest.drop 2 else rest)
    else if character = '\n' && !isThreefold then none
    else if quoting.mayHold character then bodyEnd? quoting mark isThreefold rest
    else none

/-- The quoted text at the beginning of a text, and what follows. -/
def quoted? (quoting : Quoting) (text : List Char) : Option (Token × List Char) :=
  match text with
  | mark :: rest =>
    if mark = '\'' || mark = '"' then
      let after :=
        if [mark, mark].isPrefixOf rest then bodyEnd? quoting mark true (rest.drop 2)
        else bodyEnd? quoting mark false rest
      after.map (.quoted quoting.isBytes, ·)
    else none
  | [] => none

end Quoting

/-! ## All tokens -/

/-- The token that a name is. -/
def namedToken? (name : List Char) : Option Token :=
  if ["True".toList, "False".toList, "None".toList].contains name then some .constant
  else if name = "set".toList then some .setName
  else none

/-- The number, name or quoted text at the beginning of a text, and what follows. -/
def longToken? (text : List Char) : Option (Token × List Char) :=
  let name := text.takeWhile isNameCharacter
  let rest := text.dropWhile isNameCharacter
  (number? text).or
    (((Quoting.ofWord? name).bind (Quoting.quoted? · rest)).or
      ((namedToken? name).map (·, rest)))

/-- The tokens at the beginning of a text, of which there may be none, and what follows. -/
def step? : List Char → Option (Option Token × List Char)
  | '\\' :: '\n' :: rest => if rest.isEmpty then none else some (none, rest)
  | '.' :: '.' :: '.' :: rest => some (some .constant, rest)
  | '\n' :: rest => some (some .lineEnd, rest)
  | '#' :: rest => some (none, rest.dropWhile (· != '\n'))
  | '(' :: rest => some (some (.opening .round), rest)
  | ')' :: rest => some (some (.closing .round), rest)
  | '\x7b' :: rest => some (some (.opening .curly), rest)
  | '\x7d' :: rest => some (some (.closing .curly), rest)
  | '+' :: rest => some (some .sign, rest)
  | '-' :: rest => some (some .sign, rest)
  | ',' :: rest => some (some .comma, rest)
  | ':' :: rest => some (some .colon, rest)
  | character :: rest =>
    if [' ', '\t', '\x0c'].contains character then some (none, rest)
    else (longToken? (character :: rest)).map fun (token, after) => (some token, after)
  | [] => none

/-- The tokens of a text, if it has nothing else in it, by at most that many steps. -/
def tokensWithin : Nat → List Char → Option (List Token)
  | _, [] => some []
  | 0, _ => none
  | bound + 1, text => do
    let (token, rest) ← step? text
    let later ← tokensWithin bound rest
    return token.toList ++ later

/-- The tokens of a text, if it has nothing else in it. -/
def tokens? (text : List Char) : Option (List Token) :=
  tokensWithin text.length text

end Literal
end ProtocolTypes
