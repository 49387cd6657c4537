import ProtocolTypes.Encoding.KoreanChart
import ProtocolTypes.Encoding.Step

/-!
# Korean encodings

Syllables are characters of their own, in the order of the letters that make them up.  The
encodings find them in a chart, spell them, or number their letters.
-/

namespace ProtocolTypes
namespace Encoding
namespace Korean

/-- The consonants that begin syllables. -/
def initials : List Char := "ㄱㄲㄴㄷㄸㄹㅁㅂㅃㅅㅆㅇㅈㅉㅊㅋㅌㅍㅎ".toList

/-- The vowels. -/
def vowels : List Char := "ㅏㅐㅑㅒㅓㅔㅕㅖㅗㅘㅙㅚㅛㅜㅝㅞㅟㅠㅡㅢㅣ".toList

/-- The consonants that end syllables. -/
def finals : List Char := "ㄱㄲㄳㄴㄵㄶㄷㄹㄺㄻㄼㄽㄾㄿㅀㅁㅂㅄㅅㅆㅇㅈㅊㅋㅌㅍㅎ".toList

/-- The syllable of an initial, a vowel and a final consonant, which may be missing. -/
def syllable? (initial vowel : Char) (final : Option Char) : Option Char := do
  let first ← initials.idxOf? initial
  let second ← vowels.idxOf? vowel
  let third ← match final with
    | none => some 0
    | some consonant => (finals.idxOf? consonant).map (· + 1)
  some (Char.ofNat (0xAC00 + (first * 21 + second) * 28 + third))

/-- The characters of two bytes in the standard set. -/
def standardCharacter? (row column : Nat) : Option Char :=
  if row < 0xA1 then none else Chart.koreanUpper.character? row column

/-- The same with all other syllables. -/
def extendedCharacter? : Nat → Nat → Option Char :=
  Chart.find? [Chart.koreanLower, Chart.koreanUpper]

/-- The row of single letters. -/
def letterRow : UInt8 := 0xA4

/-- The letter that stands for none. -/
def filler : UInt8 := 0xD4

/-- The letter of a byte. -/
def letter? (byte : UInt8) : Option Char :=
  standardCharacter? letterRow.toNat byte.toNat

/-- The step over a syllable spelled in four letters, of which the first is none, after
these letters' first byte. -/
def spelledStep (rest : List UInt8) : Step Unit :=
  match rest with
  | _ :: lead₁ :: initial :: lead₂ :: vowel :: lead₃ :: final :: _ =>
    if [lead₁, lead₂, lead₃].all (· == letterRow) then
      let syllable := do
        let first ← letter? initial
        let second ← letter? vowel
        if final == filler then syllable? first second none
        else syllable? first second (some (← letter? final))
      .ofOption syllable 7
    else .spoiled 0
  | _ => .cut

/-- A step in the standard set, where a letter that is none begins a spelled syllable. -/
def standardStep (byte : UInt8) (rest : List UInt8) : Step Unit :=
  if byte == letterRow && rest.head? == some filler then spelledStep rest
  else pairStep standardCharacter? byte rest

/-- A letter among numbers of five bits. -/
inductive Letter
  | none
  | some (letter : Char)

/-- What a number stands for, where the first number stands for no letter and some numbers
are left out. -/
def letterOf? (letters : List Char) (none : Nat) (leftOut : List Nat) (number : Nat) :
    Option Letter :=
  if number == none then Option.some Letter.none
  else if number < none || leftOut.contains number then Option.none
  else
    let skipped := (leftOut.filter (· < number)).length
    letters[number - none - 1 - skipped]?.map Letter.some

/-- The character of three numbers of letters: a syllable, one letter, or a blank. -/
def lettersCharacter? (number : Nat) : Option Char := do
  let initial ← letterOf? initials 1 [] (number / 0x400 % 0x20)
  let vowel ← letterOf? vowels 2 [8, 9, 16, 17, 24, 25] (number / 0x20 % 0x20)
  let final ← letterOf? finals 1 [18] (number % 0x20)
  match initial, vowel, final with
  | .some initial, .some vowel, .none => syllable? initial vowel none
  | .some initial, .some vowel, .some final => syllable? initial vowel (some final)
  | .some letter, .none, .none | .none, .some letter, .none | .none, .none, .some letter =>
    some letter
  | .none, .none, .none => some '\u3000'
  | _, _, _ => none

/-- The first byte of what is no syllable, where letters are numbered. -/
def firstSign : Nat := 0xD9

/-- The character of a cell that holds no syllable, where letters are numbered: two rows of
the standard set share a first byte. -/
def signCharacter? (row column : Nat) : Option Char :=
  if row < firstSign || row == 0xDF || 0xF9 < row || column < 0x31 ||
      (0x80 ≤ column && column < 0x91) || column % 0x80 == 0x7F ||
      (row == 0xDA && 0xA1 ≤ column && column ≤ 0xD3) then
    none
  else
    let evenRow := if row < 0xE0 then 2 * (row - firstSign) else 2 * row - 0x197
    let place := if column < 0x91 then column - 0x31 else column - 0x43
    standardCharacter? (evenRow + place / 94 + 0xA1) (place % 94 + 0xA1)

/-- The characters of two bytes where letters are numbered. -/
def numberedCharacter? (row column : Nat) : Option Char :=
  if row < 0xD8 then lettersCharacter? (row * 0x100 + column) else signCharacter? row column

/-- The Korean encodings. -/
def all : List MultiByte :=
  [ { name := "euc_kr"
      aliases :=
        ["euckr", "korean", "ksc5601", "ks_c_5601", "ks_c_5601_1987", "ksx1001", "ks_x_1001",
          "x_mac_korean"]
      decode := decodeStateless standardStep },
    { name := "cp949", aliases := ["949", "ms949", "uhc"]
      decode := decodeStateless (pairStep extendedCharacter?) },
    { name := "johab", aliases := ["cp1361", "ms1361"]
      decode := decodeStateless (pairStep numberedCharacter?) } ]

end Korean
end Encoding
end ProtocolTypes
