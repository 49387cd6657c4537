/-!
# Code pages

Encodings in which every byte is a character, or none.  A page lists the characters of
its upper bytes; the bytes below are ASCII.  A page that departs from ASCII lists all.
-/

namespace ProtocolTypes

/-- The character that stands for bytes of no meaning. -/
def replacementCharacter : Char := '\uFFFD'

/-- An encoding of one byte a character. -/
structure CodePage where
  name : String
  /-- Other names. -/
  aliases : List String
  /-- The characters of the last bytes, up to byte 255. -/
  characters : String

namespace CodePage

/-- The number of bytes that there are. -/
def byteCount : Nat := 256

/-- The character of a byte, given those of the last bytes. -/
def characterOf (characters : Array Char) (byte : UInt8) : Char :=
  let first := byteCount - characters.size
  if byte.toNat < first then Char.ofNat byte.toNat
  else characters[byte.toNat - first]?.getD replacementCharacter

/-- The characters that bytes stand for. -/
def decode (page : CodePage) (bytes : List UInt8) : List Char :=
  let characters := page.characters.toList.toArray
  bytes.map (characterOf characters)

/-- A page of no upper characters. -/
def ascii : CodePage :=
  { name := "ascii"
    aliases :=
      ["646", "ansi_x3.4_1968", "ansi_x3_4_1968", "ansi_x3.4_1986", "cp367", "csascii",
        "ibm367", "iso646_us", "iso_646.irv_1991", "iso_ir_6", "us", "us_ascii"]
    characters := String.ofList (List.replicate 128 replacementCharacter) }

/-- The page whose bytes are the first characters of Unicode. -/
def latin1 : CodePage :=
  { name := "latin_1"
    aliases :=
      ["8859", "cp819", "csisolatin1", "ibm819", "iso8859", "iso8859_1", "iso_8859_1",
        "iso_8859_1_1987", "iso_ir_100", "l1", "latin", "latin1", "charmap"]
    characters := "" }

end CodePage
end ProtocolTypes
