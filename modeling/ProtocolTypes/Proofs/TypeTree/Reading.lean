import ProtocolTypes.TypeTree.Render
import Mathlib.Data.List.Basic
import Mathlib.Data.List.DropRight
import Mathlib.Data.List.TakeDrop

/-!
# Reading a declaration back

A reader for the text of a type tree.  The first characters of a declaration tell which
form it has, a member is read from its documentation block to its semicolon, and a block
ends at the first line that closes a comment.  The bound on the depth of the recursion is
the length of the text.
-/

namespace ProtocolTypes
namespace Text

/-- What follows the word at the start of the text. -/
def after? (word text : List Char) : Option (List Char) :=
  if word.isPrefixOf text then some (text.drop word.length) else none

@[simp] theorem after?_append (word rest : List Char) :
    after? word (word ++ rest) = some rest := by
  simp [after?]

/-- A text that begins with another character does not start with the word. -/
theorem after?_of_head
    (first : Char)
    (word text : List Char)
    (different : text.head? ≠ some first) :
    after? (first :: word) text = none := by
  cases text with
  | nil => simp [after?]
  | cons character rest =>
      have notFirst : first ≠ character := by simpa [eq_comm] using different
      simp [after?, notFirst]

/-- The lines with a newline at the end of each of them. -/
def ended (lines : List String) : List Char :=
  lines.flatMap fun line => line.toList ++ ['\n']

@[simp] theorem ended_nil : ended [] = [] := rfl

@[simp] theorem ended_cons (line : String) (rest : List String) :
    ended (line :: rest) = line.toList ++ '\n' :: ended rest := by
  simp [ended]

@[simp] theorem ended_append (first second : List String) :
    ended (first ++ second) = ended first ++ ended second := by
  simp [ended]

/-- Joined lines are their ended lines up to the last one. -/
theorem joinLines_append_singleton (lines : List String) (last : String) :
    (joinLines (lines ++ [last])).toList = ended lines ++ last.toList := by
  induction lines with
  | nil => simp
  | cons line rest inductionHypothesis =>
      cases rest with
      | nil => simp
      | cons second rest =>
          simp only [List.cons_append, joinLines_cons_cons] at inductionHypothesis ⊢
          simp [inductionHypothesis]

/-- Trimming an end cuts into the first part only when nothing is left of the second. -/
theorem dropEndWhile_append (inClass : Char → Bool) (first second : List Char) :
    dropEndWhile inClass (first ++ second) =
      if dropEndWhile inClass second = [] then dropEndWhile inClass first
      else first ++ dropEndWhile inClass second := by
  simp only [dropEndWhile, List.reverse_append, List.dropWhile_append, List.isEmpty_iff,
    List.reverse_eq_nil_iff]
  split <;> simp

/-- A trimmed end has nothing left to trim. -/
@[simp] theorem dropEndWhile_dropEndWhile (inClass : Char → Bool) (text : List Char) :
    dropEndWhile inClass (dropEndWhile inClass text) = dropEndWhile inClass text := by
  simp [dropEndWhile, List.dropWhile_idempotent]

theorem dropEndWhile_isPrefix (inClass : Char → Bool) (text : List Char) :
    dropEndWhile inClass text <+: text := by
  rw [← List.reverse_suffix, dropEndWhile, List.reverse_reverse]
  exact List.dropWhile_suffix inClass

end Text

namespace DocBlock

/-- One line without a blank ending. -/
def IsPlainLine (text : String) : Prop :=
  '\n' ∉ text.toList ∧ Text.trimEnd text = text

instance (text : String) : Decidable (IsPlainLine text) :=
  inferInstanceAs (Decidable (_ ∧ _))

/-- A plain line stands behind its mark, and an empty one leaves the mark alone. -/
theorem toList_line
    (text : String)
    (plain : IsPlainLine text) :
    (line text).toList =
      if text.toList = [] then [' ', '*'] else ' ' :: '*' :: ' ' :: text.toList := by
  have untrimmed : Text.dropEndWhile Text.isBlank text.toList = text.toList := by
    rw [← Text.trimEnd_toList, plain.2]
  simp only [line, Text.trimEnd_toList, String.toList_append, Text.dropEndWhile_append,
    untrimmed]
  rfl

/-- A block ends where its last line does. -/
theorem ended_text (documentation : List String) :
    Text.ended [text documentation] = Text.ended (lines documentation) := by
  rw [Text.ended_cons, text, lines, Text.joinLines_append_singleton]
  simp

/-- The line of a block that closes the comment. -/
def closing : List Char := [' ', '*', '/']

/-- Reads the lines up to the closing one, with `current` the start of the open line.  The
three characters of its mark are no part of a line. -/
def readLines (current : List Char) : List Char → Option (List String × List Char)
  | [] => none
  | '\n' :: rest =>
    if current = closing then some ([], rest)
    else (readLines [] rest).map fun (lines, rest) =>
      (String.ofList (current.drop 3) :: lines, rest)
  | character :: rest => readLines (current ++ [character]) rest

/-- Characters other than a newline lengthen the open line. -/
theorem readLines_append
    (line : List Char)
    (oneLine : '\n' ∉ line)
    (current rest : List Char) :
    readLines current (line ++ rest) = readLines (current ++ line) rest := by
  induction line generalizing current with
  | nil => simp
  | cons character line inductionHypothesis =>
      simp only [List.mem_cons, not_or] at oneLine
      rw [List.cons_append, readLines, inductionHypothesis oneLine.2]
      · simp
      · exact fun isNewline => oneLine.1 isNewline.symm

/-- The body of a block is read back line by line. -/
theorem readLines_body
    (documentation : List String)
    (plain : ∀ text ∈ documentation, IsPlainLine text)
    (rest : List Char) :
    readLines [] (Text.ended (documentation.map line ++ [" */"]) ++ rest) =
      some (documentation, rest) := by
  induction documentation with
  | nil => simp [readLines, closing]
  | cons text documentation inductionHypothesis =>
      have shown := toList_line text (plain text (by simp))
      have oneLine : '\n' ∉ (line text).toList := by
        have inText := (plain text (by simp)).1
        rw [shown]
        split <;> simp [inText]
      have notClosing : (line text).toList ≠ closing := by
        rw [shown, closing]
        split <;> simp
      have content : (line text).toList.drop 3 = text.toList := by
        rw [shown]
        split <;> simp [*]
      simp only [List.map_cons, List.cons_append, Text.ended_cons, List.append_assoc]
      rw [readLines_append _ oneLine, List.nil_append, readLines, if_neg notClosing,
        inductionHypothesis fun other isThere => plain other (by simp [isThere])]
      simp [content]

/-- The documentation at the start of the text, none when no block opens there. -/
def read? (text : List Char) : Option (List String × List Char) :=
  match Text.after? ['/', '*', '*', '\n'] text with
  | some body => readLines [] body
  | none => some ([], text)

/-- The block as it stands over a member, nothing where there is no documentation. -/
def blockOver (documentation : List String) : List Char :=
  if documentation = [] then [] else Text.ended (lines documentation)

theorem head_blockOver (documentation : List String) (rest : List Char) :
    (blockOver documentation ++ rest).head? =
      if documentation = [] then rest.head? else some '/' := by
  by_cases undocumented : documentation = [] <;> simp [blockOver, undocumented, lines]

/-- A block is read back with what follows it, which does not open another one. -/
theorem read?_blockOver
    (documentation : List String)
    (plain : ∀ text ∈ documentation, IsPlainLine text)
    (rest : List Char)
    (noBlock : rest.head? ≠ some '/') :
    read? (blockOver documentation ++ rest) = some (documentation, rest) := by
  by_cases undocumented : documentation = []
  · simp [blockOver, undocumented, read?, Text.after?_of_head _ _ _ noBlock]
  · have opened : Text.after? ['/', '*', '*', '\n'] (Text.ended (lines documentation) ++ rest) =
        some (Text.ended (documentation.map line ++ [" */"]) ++ rest) := by
      rw [← Text.after?_append ['/', '*', '*', '\n']]
      simp [lines]
    rw [blockOver, if_neg undocumented, read?, opened]
    exact readLines_body documentation plain rest

end DocBlock

namespace TypeTree

/-- An ASCII letter or digit, an underscore or a dollar sign. -/
def isNameCharacter (character : Char) : Bool :=
  character.isAlphanum || character == '_' || character == '$'

/-- The declarations that hold no other one, and their trees. -/
def words : List (String × TypeTree) :=
  [("string", scalar .string Note.blank), ("number", scalar .number Note.blank),
    ("boolean", scalar .boolean Note.blank), (jsonValue, opaqueJson Note.blank),
    (jsonObject ++ "[]", array emptyObject Note.blank), (jsonObject, emptyObject)]

/-- The tree of the word at the start of the text. -/
def readWord? (text : List Char) : Option (TypeTree × List Char) :=
  words.findSome? fun (word, tree) =>
    (Text.after? word.toList text).map fun rest => (tree, rest)

/-- Reads the separator behind a name: whether the member is optional. -/
def readSeparator? (text : List Char) : Option (Bool × List Char) :=
  match Text.after? ['?', ':', ' '] text, Text.after? [':', ' '] text with
  | some rest, _ => some (true, rest)
  | none, some rest => some (false, rest)
  | none, none => none

mutual

/-- Reads a tree from the start of the text. -/
def readTree? : Nat → List Char → Option (TypeTree × List Char)
  | 0, _ => none
  | depth + 1, text =>
    match readWord? text, Text.after? "Array<".toList text, Text.after? ['\x7b', '\n'] text with
    | some found, _, _ => some found
    | none, some inside, _ => do
      let (element, rest) ← readTree? depth inside
      let rest ← Text.after? ['>'] rest
      return (array element Note.blank, rest)
    | none, none, some inside => do
      let (properties, rest) ← readMembers? depth inside
      return (object properties Note.blank, rest)
    | none, none, none => none

/-- Reads the members of an object up to its closing brace. -/
def readMembers? : Nat → List Char → Option (List (String × TypeTree) × List Char)
  | 0, _ => none
  | depth + 1, text =>
    match Text.after? ['\x7d'] text with
    | some rest => some ([], rest)
    | none => do
      let (documentation, rest) ← DocBlock.read? text
      let name := rest.takeWhile isNameCharacter
      let (optional, rest) ← readSeparator? (rest.dropWhile isNameCharacter)
      let (tree, rest) ← readTree? depth rest
      let rest ← Text.after? [';', '\n'] rest
      let (others, rest) ← readMembers? depth rest
      return ((String.ofList name, tree.withNote ⟨optional, documentation⟩) :: others, rest)

end

/-- A word is read as its tree where no bracket follows it. -/
theorem readWord?_append
    {word : String}
    {tree : TypeTree}
    (listed : (word, tree) ∈ words)
    (rest : List Char)
    (closed : rest.head? ≠ some '[') :
    readWord? (word.toList ++ rest) = some (tree, rest) := by
  have noBracket : Text.after? (jsonObject ++ "[]").toList (jsonObject.toList ++ rest) = none := by
    cases rest with
    | nil => rfl
    | cons character rest =>
        have different : '[' ≠ character := by simpa [eq_comm] using closed
        simp [Text.after?, jsonObject, different]
  simp only [words, List.mem_cons, Prod.mk.injEq, List.not_mem_nil, or_false] at listed
  rcases listed with ⟨rfl, rfl⟩ | ⟨rfl, rfl⟩ | ⟨rfl, rfl⟩ | ⟨rfl, rfl⟩ | ⟨rfl, rfl⟩ | ⟨rfl, rfl⟩
  · rfl
  · rfl
  · rfl
  · rfl
  · rfl
  · have others : readWord? (jsonObject.toList ++ rest) =
        [(jsonObject ++ "[]", array emptyObject Note.blank), (jsonObject, emptyObject)].findSome?
          fun (word, tree) => (Text.after? word.toList (jsonObject.toList ++ rest)).map
            fun rest => (tree, rest) := rfl
    rw [others]
    simp only [List.findSome?, noBracket, Text.after?_append, Option.map_none, Option.map_some]

/-- An optional or a required member is told by its separator. -/
theorem readSeparator?_separator (optional : Bool) (rest : List Char) :
    readSeparator? ((separator optional).toList ++ rest) = some (optional, rest) := by
  cases optional <;> simp [readSeparator?, separator, Text.after?]

end TypeTree
end ProtocolTypes
