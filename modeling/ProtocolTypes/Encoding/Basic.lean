import ProtocolTypes.Accident
import ProtocolTypes.Encoding.Designation
import ProtocolTypes.Encoding.Escaped
import ProtocolTypes.Encoding.ForeignPages
import ProtocolTypes.Encoding.NamedPages
import ProtocolTypes.Encoding.NumberedPages
import ProtocolTypes.Encoding.Punycode
import ProtocolTypes.Encoding.Shifted

/-!
# Encodings

How bytes are taken as text, and the names that an encoding goes by.  Bytes that stand
for nothing are replaced; some encodings can be named but not used in this way.
-/

namespace ProtocolTypes

/-- An encoding of text in bytes. -/
inductive Encoding
  /-- Unicode in units of one byte. -/
  | bytes
  /-- The same with a mark in front, which is dropped. -/
  | markedBytes
  /-- Unicode in units of two bytes; where no order is told, a mark in front has to. -/
  | pairs (order : Option Encoding.ByteOrder)
  /-- Unicode in units of four bytes. -/
  | quads (order : Option Encoding.ByteOrder)
  /-- Unicode in seven bits. -/
  | shifted
  /-- Unicode by escapes. -/
  | escaped
  /-- Unicode by escapes for numbers alone. -/
  | rawEscaped
  /-- Other characters than ASCII behind those of ASCII. -/
  | punycode
  | page (codePage : CodePage)
  /-- Characters of different numbers of bytes. -/
  | multiByte (multiByte : Encoding.MultiByte)
  /-- What is no encoding of texts, or none that bears replacements. -/
  | unusable (accident : Accident)

namespace Encoding

/-- The character that marks the order of bytes. -/
def byteOrderMark : Char := '\uFEFF'

/-- The text after a mark. -/
def dropMark : List Char → List Char
  | first :: rest => if first = byteOrderMark then rest else first :: rest
  | [] => []

/-- The text of units whose order a mark in front tells; too few bytes for a unit are
replaced, and a unit that is no mark is an accident. -/
def decodeMarked
    (width : Nat)
    (decode : ByteOrder → List UInt8 → List Char)
    (bytes : List UInt8) :
    Except Accident (List Char) :=
  let unit := bytes.take width
  if unit.length < width then .ok (bytes.take 1 |>.map fun _ => replacementCharacter)
  else
    match [ByteOrder.littleEnd, .bigEnd].find? fun order =>
        order.number unit = byteOrderMark.toNat with
    | some order => .ok (decode order (bytes.drop width))
    | none => .error .undecodable

variable [StandIns]

/-- The text of bytes. -/
def decode (encoding : Encoding) (content : List UInt8) : Except Accident (List Char) :=
  if content.isEmpty then .ok []
  else
    match encoding with
    | bytes => .ok (decodeBytes content)
    | markedBytes => .ok (dropMark (decodeBytes content))
    | pairs none => decodeMarked 2 decodePairs content
    | pairs (some order) => .ok (decodePairs order content)
    | quads none => decodeMarked 4 decodeQuads content
    | quads (some order) => .ok (decodeQuads order content)
    | shifted => .ok (decodeShifted content)
    | escaped => .ok (decodeEscapes decodeEscape content)
    | rawEscaped => .ok (decodeEscapes decodeRawEscape content)
    | punycode => Punycode.decode content
    | page codePage => .ok (codePage.decode content)
    | multiByte encoding => encoding.decode content
    | unusable accident => .error accident

/-- The text of bytes behind which nothing can come: where no mark tells their order, the
little end is first. -/
def decodeWhole (encoding : Encoding) (content : List UInt8) : Except Accident (List Char) :=
  match encoding, encoding.decode content with
  | pairs none, .error _ => .ok (decodePairs .littleEnd content)
  | quads none, .error _ => .ok (decodeQuads .littleEnd content)
  | _, result => result

omit [StandIns]

/-- An encoding with its names. -/
structure Named where
  name : String
  aliases : List String
  encoding : Encoding

/-- The encodings of Unicode. -/
def unicode : List Named :=
  [ ⟨"utf_8", ["u8", "utf", "utf8", "utf8_ucs2", "utf8_ucs4", "cp65001"], bytes⟩,
    ⟨"utf_8_sig", [], markedBytes⟩,
    ⟨"utf_16", ["u16", "utf16"], pairs none⟩,
    ⟨"utf_16_be", ["unicodebigunmarked", "utf_16be"], pairs (some .bigEnd)⟩,
    ⟨"utf_16_le", ["unicodelittleunmarked", "utf_16le"], pairs (some .littleEnd)⟩,
    ⟨"utf_32", ["u32", "utf32"], quads none⟩,
    ⟨"utf_32_be", ["utf_32be"], quads (some .bigEnd)⟩,
    ⟨"utf_32_le", ["utf_32le"], quads (some .littleEnd)⟩,
    ⟨"utf_7", ["u7", "utf7", "unicode_1_1_utf_7"], shifted⟩,
    ⟨"unicode_escape", [], escaped⟩,
    ⟨"raw_unicode_escape", [], rawEscaped⟩,
    ⟨"punycode", [], punycode⟩ ]

/-- What is named like an encoding and cannot be used as one. -/
def unusables : List Named :=
  [ ⟨"base64_codec", ["base64", "base_64"], unusable .notTextual⟩,
    ⟨"bz2_codec", ["bz2"], unusable .notTextual⟩,
    ⟨"hex_codec", ["hex"], unusable .notTextual⟩,
    ⟨"quopri_codec", ["quopri", "quoted_printable", "quotedprintable"], unusable .notTextual⟩,
    ⟨"uu_codec", ["uu"], unusable .notTextual⟩,
    ⟨"zlib_codec", ["zip", "zlib"], unusable .notTextual⟩,
    ⟨"rot_13", ["rot13"], unusable .wrongType⟩,
    ⟨"idna", [], unusable .undecodable⟩,
    ⟨"undefined", [], unusable .undecodable⟩ ]

/-- All encodings that have names. -/
def all : List Named :=
  unicode ++ unusables ++
    ([CodePage.ascii, .latin1] ++ CodePage.numbered ++ CodePage.named ++ CodePage.foreign).map
      (fun page => ⟨page.name, page.aliases, Encoding.page page⟩) ++
    (Chinese.all ++ Korean.all ++ Japanese.all ++ Designation.all).map
      fun several => ⟨several.name, several.aliases, Encoding.multiByte several⟩

/-- A name with its letters in lower case and one underscore for what stands between its
words. -/
def plainName (name : List Char) : List Char :=
  let isWordPart := fun character : Char => character.isAlphanum || character == '.'
  let (plain, _) :=
    name.foldl
      (fun (plain, betweenWords) character =>
        if isWordPart character then
          let gap := if betweenWords && !plain.isEmpty then ['_'] else []
          (plain ++ gap ++ [character.toLower], false)
        else (plain, true))
      (([] : List Char), false)
  plain

/-- The encoding of a name; an alias may also be written with points. -/
def ofName? (name : String) : Option Encoding :=
  let plain := String.ofList (plainName name.toList)
  let spelled := String.ofList
    (plain.toList.map fun character => if character == '.' then '_' else character)
  let isMeant := fun encoding : Named =>
    encoding.aliases.contains plain || encoding.aliases.contains spelled ||
      encoding.name == plain
  (all.find? isMeant).map Named.encoding

end Encoding
end ProtocolTypes
