import ProtocolTypes.Text.Pattern

/-!
# Tags

A tag says what a node stands for.  A plain scalar without a tag gets the first whose
pattern its text matches; the patterns are those of the 1.1 schema, with its base
sixty numbers and its many truth values.
-/

namespace ProtocolTypes
namespace Yaml

/-- The address that the core tags share. -/
def coreAddress : String := "tag:yaml.org,2002:"

/-- What a node stands for. -/
inductive Tag
  | null
  | bool
  | int
  | float
  | str
  | timestamp
  | binary
  | seq
  | map
  | set
  | omap
  | pairs
  | merge
  | default
  | other (address : String)
  deriving DecidableEq, Repr

namespace Tag

/-- The core tags by their names. -/
def coreNames : List (String × Tag) :=
  [ ("null", null), ("bool", bool), ("int", int), ("float", float), ("str", str),
    ("timestamp", timestamp), ("binary", binary), ("seq", seq), ("map", map),
    ("set", set), ("omap", omap), ("pairs", pairs), ("merge", merge), ("value", default) ]

/-- The tag of an address. -/
def ofAddress (address : String) : Tag :=
  match coreNames.find? fun (name, _) => coreAddress ++ name == address with
  | some (_, tag) => tag
  | none => other address

open Pattern

/-- The digits and underscores of a class. -/
def digitsOf (characters : String) : Pattern := many (oneOf (characters ++ "_"))

/-- The decimal digits. -/
def decimalDigits : String := "0123456789"

/-- A sign or none. -/
def optionalSign : Pattern := Pattern.optional (oneOf "-+")

/-- A further place of a number in base sixty. -/
def sixtiethPlace : Pattern :=
  sequence [oneOf ":", Pattern.optional (oneOf "012345"), digit]

/-- Words of which any may stand. -/
def anyWord (words : List String) : Pattern := choice (words.map word)

/-- The spellings of the truth values. -/
def boolPattern : Pattern :=
  anyWord
    [ "yes", "Yes", "YES", "no", "No", "NO", "true", "True", "TRUE", "false", "False",
      "FALSE", "on", "On", "ON", "off", "Off", "OFF" ]

/-- The exponent of a float, whose sign has to be there. -/
def exponentPattern : Pattern :=
  Pattern.optional (sequence [oneOf "eE", oneOf "-+", oneOrMore digit])

/-- The spellings of floats. -/
def floatPattern : Pattern :=
  choice
    [ sequence
        [optionalSign, digit, digitsOf decimalDigits, oneOf ".", digitsOf decimalDigits,
          exponentPattern],
      sequence [oneOf ".", digit, digitsOf decimalDigits, exponentPattern],
      sequence
        [optionalSign, digit, digitsOf decimalDigits, oneOrMore sixtiethPlace, oneOf ".",
          digitsOf decimalDigits],
      sequence [optionalSign, anyWord [".inf", ".Inf", ".INF"]],
      anyWord [".nan", ".NaN", ".NAN"] ]

/-- The spellings of integers. -/
def intPattern : Pattern :=
  sequence
    [ optionalSign,
      choice
        [ sequence [word "0b", oneOf "01_", digitsOf "01"],
          sequence [word "0", oneOf "01234567_", digitsOf "01234567"],
          word "0",
          sequence [oneOf "123456789", digitsOf decimalDigits],
          sequence
            [word "0x", oneOf "0123456789abcdefABCDEF_", digitsOf "0123456789abcdefABCDEF"],
          sequence
            [oneOf "123456789", digitsOf decimalDigits, oneOrMore sixtiethPlace] ] ]

/-- The spellings of null. -/
def nullPattern : Pattern := anyWord ["~", "null", "Null", "NULL", ""]

/-- One digit or two. -/
def oneOrTwoDigits : Pattern := sequence [digit, Pattern.optional digit]

/-- Two digits. -/
def twoDigits : Pattern := sequence [digit, digit]

/-- Four digits. -/
def fourDigits : Pattern := sequence [digit, digit, digit, digit]

/-- Spaces and tabs, as far as there are any. -/
def blanks : Pattern := many (oneOf " \t")

/-- An offset from universal time, with the blanks in front of it. -/
def offsetPattern : Pattern :=
  Pattern.optional
    (sequence
      [ blanks,
        choice
          [ oneOf "Z",
            sequence
              [oneOf "-+", oneOrTwoDigits, Pattern.optional (sequence [oneOf ":", twoDigits])] ] ])

/-- A day and a time of it. -/
def momentPattern : Pattern :=
  sequence
    [ fourDigits, oneOf "-", oneOrTwoDigits, oneOf "-", oneOrTwoDigits,
      choice [oneOf "Tt", oneOrMore (oneOf " \t")],
      oneOrTwoDigits, oneOf ":", twoDigits, oneOf ":", twoDigits,
      Pattern.optional (sequence [oneOf ".", many digit]),
      offsetPattern ]

/-- The spellings of days and moments. -/
def timestampPattern : Pattern :=
  choice
    [sequence [fourDigits, oneOf "-", twoDigits, oneOf "-", twoDigits], momentPattern]

/-- The tags that a plain scalar may get, with the characters that its text may begin
with; the empty text has a tag of its own. -/
def implicitTags : List (Tag × String × Pattern) :=
  [ (bool, "yYnNtTfFoO", boolPattern),
    (float, "-+0123456789.", floatPattern),
    (int, "-+0123456789", intPattern),
    (merge, "<", word "<<"),
    (null, "~nN", nullPattern),
    (timestamp, "0123456789", timestampPattern),
    (default, "=", word "="),
    (other (coreAddress ++ "yaml"), "!&*", oneOf "!&*") ]

/-- The tag of a plain scalar without one. -/
def ofPlain (text : List Char) : Tag :=
  match text with
  | [] => null
  | first :: _ =>
    match implicitTags.find? fun (_, firsts, pattern) =>
        firsts.toList.contains first && pattern.acceptsLine text with
    | some (tag, _, _) => tag
    | none => str

end Tag
end Yaml
end ProtocolTypes
