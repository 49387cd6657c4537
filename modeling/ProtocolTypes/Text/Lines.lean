/-!
# Lines of a text

Cutting a text at a separator, joining lines by newlines, the wider set of line
breaks that ends a line in foreign text, and indentation by a fixed margin.
`splitLines` ends a line at any line break and starts none after the last;
`splitAt` keeps one piece more than there are separators.
-/

namespace ProtocolTypes
namespace Text

/-- The pieces between the separators, one more than there are separators. -/
def splitAt (separator : Char) (text : String) : List String :=
  (text.toList.splitOn separator).map String.ofList

/-- The lines with a newline between each two of them. -/
def joinLines (lines : List String) : String :=
  "\n".intercalate lines

@[simp]
theorem joinLines_nil : joinLines [] = "" := by
  simp [joinLines]

@[simp]
theorem joinLines_singleton (line : String) : joinLines [line] = line := by
  simp [joinLines]

@[simp]
theorem joinLines_cons_cons (first second : String) (rest : List String) :
    joinLines (first :: second :: rest) =
      first ++ "\n" ++ joinLines (second :: rest) := by
  simp [joinLines, String.intercalate_cons_cons]

/-- The characters that end a line on their own. -/
def isLineBreak (character : Char) : Bool :=
  let point := character.toNat
  (0x0A ≤ point && point ≤ 0x0D) || (0x1C ≤ point && point ≤ 0x1E) ||
    point == 0x85 || point == 0x2028 || point == 0x2029

/-- The lines of a character list, with `current` the reversed start of the open line. -/
def splitLinesFrom (current : List Char) : List Char → List (List Char)
  | [] => if current.isEmpty then [] else [current.reverse]
  | '\r' :: '\n' :: rest => current.reverse :: splitLinesFrom [] rest
  | character :: rest =>
    if isLineBreak character then current.reverse :: splitLinesFrom [] rest
    else splitLinesFrom (character :: current) rest

/-- Between line breaks no character is lost, and none is added. -/
theorem all_splitLinesFrom
    (accepts : Char → Bool)
    (acceptsBreaks : ∀ character, isLineBreak character = true → accepts character = true)
    (current text : List Char) :
    ((splitLinesFrom current text).all fun line => line.all accepts) =
      (current.all accepts && text.all accepts) := by
  fun_induction splitLinesFrom current text with
  | case1 current empty => simp [List.isEmpty_iff.mp empty]
  | case2 current _ => simp
  | case3 current rest inductionHypothesis =>
      simp [inductionHypothesis, acceptsBreaks '\r' rfl, acceptsBreaks '\n' rfl]
  | case4 current character rest _ breaks inductionHypothesis =>
      simp [inductionHypothesis, acceptsBreaks character breaks]
  | case5 current character rest _ _ inductionHypothesis =>
      simp [inductionHypothesis, Bool.and_assoc, Bool.and_left_comm]

/-- The lines of a text: any line break ends one, and a carriage return with its
newline is a single break. -/
def splitLines (text : String) : List String :=
  (splitLinesFrom [] text.toList).map String.ofList

/-- Puts the margin before the first line and before every later line that is not empty. -/
def indentLines (margin : String) : List String → List String
  | [] => [margin]
  | first :: rest =>
    (margin ++ first) :: rest.map fun line => if line.isEmpty then line else margin ++ line

/-- The text with its lines moved in by the margin, its breaks now newlines. -/
def indent (margin : String) (text : String) : String :=
  joinLines (indentLines margin (splitLines (text ++ "\n")))

/-- Turns a carriage return, alone or before a newline, into a newline. -/
def unifyNewlineChars : List Char → List Char
  | [] => []
  | '\r' :: '\n' :: rest => '\n' :: unifyNewlineChars rest
  | character :: rest =>
    (if character = '\r' then '\n' else character) :: unifyNewlineChars rest

/-- A text as it is read from a file: every line ends in a newline alone. -/
def unifyNewlines (text : String) : String :=
  String.ofList (unifyNewlineChars text.toList)

end Text
end ProtocolTypes
