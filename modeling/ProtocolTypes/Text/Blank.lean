/-!
# White space

Two classes of blank characters and the trimming that goes with each of them.
`isWhiteSpace` is the Unicode property of that name; `isBlank` adds the four
information separators, and is the class that text is trimmed by.
-/

namespace ProtocolTypes
namespace Text

/-- The Unicode property `White_Space`. -/
def isWhiteSpace (character : Char) : Bool :=
  let point := character.toNat
  (9 ≤ point && point ≤ 13) || point == 0x20 || point == 0x85 || point == 0xA0 ||
    point == 0x1680 || (0x2000 ≤ point && point ≤ 0x200A) || point == 0x2028 ||
    point == 0x2029 || point == 0x202F || point == 0x205F || point == 0x3000

/-- White space, or one of the information separators U+001C to U+001F. -/
def isBlank (character : Char) : Bool :=
  isWhiteSpace character || (0x1C ≤ character.toNat && character.toNat ≤ 0x1F)

/-- Drops the longest ending whose characters all lie in the class. -/
def dropEndWhile (inClass : Char → Bool) (text : List Char) : List Char :=
  (text.reverse.dropWhile inClass).reverse

@[simp]
theorem dropEndWhile_nil (inClass : Char → Bool) :
    dropEndWhile inClass [] = [] := rfl

/-- Drops the characters of the class from both ends. -/
def stripWhile (inClass : Char → Bool) (text : List Char) : List Char :=
  dropEndWhile inClass (text.dropWhile inClass)

/-- The text without its blank ending. -/
def trimEnd (text : String) : String :=
  String.ofList (dropEndWhile isBlank text.toList)

/-- The text without its blank beginning and ending. -/
def trim (text : String) : String :=
  String.ofList (stripWhile isBlank text.toList)

/-- The text without the newlines that it ends in. -/
def trimEndNewlines (text : String) : String :=
  String.ofList (dropEndWhile (· == '\n') text.toList)

@[simp]
theorem trimEnd_toList (text : String) :
    (trimEnd text).toList = dropEndWhile isBlank text.toList := by
  simp [trimEnd]

/-- Whether every character is blank. -/
def isBlankText (text : String) : Bool :=
  text.toList.all isBlank

end Text
end ProtocolTypes
