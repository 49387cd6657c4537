import ProtocolTypes.Proofs.TypeTree.Reading
import Mathlib.Data.List.Infix

/-!
# Comments and code

`withoutComments` deletes the block comments of a text and `codeLines` gives the lines of
what is left that are not blank.  `CodeOf` relates a text with comments to the code that it
holds: it is kept by concatenation, and a documentation block none of whose lines closes a
comment holds no code.
-/

namespace ProtocolTypes
namespace Text

/-! ## Deleting comments -/

mutual

/-- The text without its block comments.  A comment that nothing closes reaches to the end. -/
def withoutComments : List Char → List Char
  | [] => []
  | '/' :: '*' :: rest => afterComment rest
  | character :: rest => character :: withoutComments rest

/-- The same from within a comment. -/
def afterComment : List Char → List Char
  | [] => []
  | '*' :: '/' :: rest => withoutComments rest
  | _ :: rest => afterComment rest

end

/-- The text has somewhere what closes a comment. -/
def ClosesComment (text : List Char) : Prop :=
  ['*', '/'] <:+: text

instance (text : List Char) : Decidable (ClosesComment text) :=
  inferInstanceAs (Decidable (_ <:+: _))

@[simp] theorem not_closesComment_nil : ¬ ClosesComment [] := by
  simp [ClosesComment]

theorem closesComment_cons_iff (character : Char) (rest : List Char) :
    ClosesComment (character :: rest) ↔
      (character = '*' ∧ rest.head? = some '/') ∨ ClosesComment rest := by
  rw [ClosesComment, List.infix_cons_iff, ClosesComment]
  apply or_congr_left
  cases rest with
  | nil => simp
  | cons next rest => simp [eq_comm]

/-- A comment is closed within one of two parts where the second does not begin by closing. -/
theorem closesComment_append_iff
    (left right : List Char)
    (apart : right.head? ≠ some '/') :
    ClosesComment (left ++ right) ↔ ClosesComment left ∨ ClosesComment right := by
  induction left with
  | nil => simp
  | cons character left inductionHypothesis =>
      have sameHead : (left ++ right).head? = some '/' ↔ left.head? = some '/' := by
        cases left <;> simp [apart]
      rw [List.cons_append, closesComment_cons_iff, closesComment_cons_iff, sameHead,
        inductionHypothesis, or_assoc]

/-- Text without a slash opens no comment. -/
theorem withoutComments_append
    (code : List Char)
    (noSlash : '/' ∉ code)
    (rest : List Char) :
    withoutComments (code ++ rest) = code ++ withoutComments rest := by
  induction code with
  | nil => rfl
  | cons character code inductionHypothesis =>
      simp only [List.mem_cons, not_or] at noSlash
      rw [List.cons_append, withoutComments, inductionHypothesis noSlash.2, List.cons_append]
      exact fun _ opens => absurd opens.symm noSlash.1

/-- A comment ends at the first place that closes it. -/
theorem afterComment_append
    (body : List Char)
    (staysOpen : ¬ ClosesComment body)
    (rest : List Char) :
    afterComment (body ++ '*' :: '/' :: rest) = withoutComments rest := by
  induction body with
  | nil => rw [List.nil_append, afterComment]
  | cons character body inductionHypothesis =>
      rw [closesComment_cons_iff, not_or] at staysOpen
      rw [List.cons_append, afterComment, inductionHypothesis staysOpen.2]
      rintro others rfl closes
      apply staysOpen.1
      cases body with
      | nil => simp at closes
      | cons next body => simp_all

/-! ## Lines that are not blank -/

/-- The lines that are not blank. -/
def solidLines (text : List Char) : List (List Char) :=
  (text.splitOn '\n').filter fun line => !line.all isBlank

/-- The lines of code: what is left of a text without its comments and blank lines. -/
def codeLines (text : String) : List (List Char) :=
  solidLines (withoutComments text.toList)

theorem solidLines_append_newline (left right : List Char) :
    solidLines (left ++ '\n' :: right) = solidLines left ++ solidLines right := by
  simp [solidLines, List.splitOn_append_cons_self]

/-- The texts give the same lines, but for blank ones, wherever they stand. -/
def SameSolidLines (left right : List Char) : Prop :=
  ∀ before after, solidLines (before ++ (left ++ after)) = solidLines (before ++ (right ++ after))

theorem SameSolidLines.refl (text : List Char) : SameSolidLines text text := fun _ _ => rfl

theorem SameSolidLines.append
    {left right leftRest rightRest : List Char}
    (first : SameSolidLines left right)
    (second : SameSolidLines leftRest rightRest) :
    SameSolidLines (left ++ leftRest) (right ++ rightRest) := by
  intro before after
  calc solidLines (before ++ (left ++ leftRest ++ after))
      = solidLines (before ++ (left ++ (leftRest ++ after))) := by simp
    _ = solidLines (before ++ right ++ (leftRest ++ after)) := by
        rw [first before (leftRest ++ after), List.append_assoc]
    _ = solidLines (before ++ (right ++ rightRest ++ after)) := by
        rw [second (before ++ right) after]; simp

/-- An empty line between two newlines makes no difference. -/
theorem sameSolidLines_blank : SameSolidLines ['\n', '\n'] ['\n'] := by
  intro before after
  have nothing : solidLines [] = [] := by simp [solidLines]
  have gap : solidLines ('\n' :: after) = solidLines after := by
    rw [← List.nil_append ('\n' :: after), solidLines_append_newline, nothing, List.nil_append]
  simp [solidLines_append_newline, gap]

/-! ## Code behind comments -/

/-- Without its comments the text is the code, up to blank lines, whatever comes after. -/
def CodeOf (text code : List Char) : Prop :=
  ∃ left, SameSolidLines left code ∧
    ∀ rest, withoutComments (text ++ rest) = left ++ withoutComments rest

theorem CodeOf.of_noSlash (code : List Char) (noSlash : '/' ∉ code) : CodeOf code code :=
  ⟨code, .refl code, withoutComments_append code noSlash⟩

theorem CodeOf.append
    {text code rest restCode : List Char}
    (first : CodeOf text code)
    (second : CodeOf rest restCode) :
    CodeOf (text ++ rest) (code ++ restCode) := by
  obtain ⟨left, leftSame, leftStays⟩ := first
  obtain ⟨right, rightSame, rightStays⟩ := second
  refine ⟨left ++ right, leftSame.append rightSame, fun after => ?_⟩
  rw [List.append_assoc, leftStays, rightStays, List.append_assoc]

/-- A comment on lines of its own holds no code. -/
theorem CodeOf.comment (body : List Char) (staysOpen : ¬ ClosesComment body) :
    CodeOf ('\n' :: '/' :: '*' :: (body ++ ['*', '/', '\n'])) ['\n'] := by
  refine ⟨['\n', '\n'], sameSolidLines_blank, fun rest => ?_⟩
  have opens := withoutComments_append ['\n'] (by decide)
    ('/' :: '*' :: (body ++ '*' :: '/' :: '\n' :: rest))
  have behind := withoutComments_append ['\n'] (by decide) rest
  simp only [List.singleton_append] at opens behind
  simp [opens, withoutComments, afterComment_append body staysOpen, behind]

/-- Texts that hold the same code have the same lines of code. -/
theorem CodeOf.codeLines_eq
    {left right : String}
    {code : List Char}
    (leftCode : CodeOf left.toList code)
    (rightCode : CodeOf right.toList code) :
    codeLines left = codeLines right := by
  obtain ⟨leftLeft, leftSame, leftStays⟩ := leftCode
  obtain ⟨rightLeft, rightSame, rightStays⟩ := rightCode
  have leftText := leftStays []
  have rightText := rightStays []
  have nothing : withoutComments [] = [] := by simp [withoutComments]
  simp only [nothing, List.append_nil] at leftText rightText
  have leftLines := leftSame [] []
  have rightLines := rightSame [] []
  simp only [List.nil_append, List.append_nil] at leftLines rightLines
  rw [codeLines, codeLines, leftText, rightText, leftLines, rightLines]

end Text

/-! ## Documentation blocks -/

namespace DocBlock

theorem isInfix_line (text : String) :
    (line text).toList <:+: " * ".toList ++ text.toList := by
  have isPrefix : (Text.dropEndWhile Text.isBlank (" * " ++ text).toList) <+:
      (" * " ++ text).toList := by
    have atEnd := List.reverse_prefix.mpr
      (List.dropWhile_suffix (l := (" * " ++ text).toList.reverse) Text.isBlank)
    rwa [List.reverse_reverse] at atEnd
  rw [line, Text.trimEnd_toList, ← String.toList_append]
  exact isPrefix.isInfix

/-- A line of a block closes the comment only where its text does. -/
theorem not_closesComment_line
    (text : String)
    (staysOpen : ¬ Text.ClosesComment text.toList) :
    ¬ Text.ClosesComment (line text).toList := by
  intro closes
  have inMarked : Text.ClosesComment (" * ".toList ++ text.toList) :=
    closes.trans (isInfix_line text)
  have mark : " * ".toList = [' ', '*', ' '] := rfl
  rw [mark] at inMarked
  simp [Text.closesComment_cons_iff, staysOpen] at inMarked

/-- The lines between the first and the last one of a block stay within the comment. -/
theorem not_closesComment_ended
    (documentation : List String)
    (staysOpen : ∀ text ∈ documentation, ¬ Text.ClosesComment text.toList) :
    ¬ Text.ClosesComment (Text.ended (documentation.map line)) := by
  induction documentation with
  | nil => simp
  | cons text documentation inductionHypothesis =>
      have others := inductionHypothesis fun other isThere => staysOpen other (by simp [isThere])
      have first := not_closesComment_line text (staysOpen text (by simp))
      rw [List.map_cons, Text.ended_cons, Text.closesComment_append_iff _ _ (by simp), not_or,
        Text.closesComment_cons_iff]
      exact ⟨first, by simp [others]⟩

/-- The block over a member holds no code. -/
theorem codeOf_blockOver
    (documentation : List String)
    (staysOpen : ∀ text ∈ documentation, ¬ Text.ClosesComment text.toList) :
    Text.CodeOf ('\n' :: blockOver documentation) ['\n'] := by
  unfold blockOver
  split
  · exact .of_noSlash _ (by decide)
  · have body : ¬ Text.ClosesComment
        ('*' :: '\n' :: (Text.ended (documentation.map line) ++ [' '])) := by
      have inside := not_closesComment_ended documentation staysOpen
      have last : ¬ Text.ClosesComment [' '] := by decide
      have throughout := Text.closesComment_append_iff _ [' '] (by simp) |>.not.mpr
        (not_or.mpr ⟨inside, last⟩)
      simp [Text.closesComment_cons_iff, throughout]
    have block : Text.ended (lines documentation) =
        '/' :: '*' :: (('*' :: '\n' :: (Text.ended (documentation.map line) ++ [' '])) ++
          ['*', '/', '\n']) := by
      simp [lines]
    rw [block]
    exact .comment _ body

end DocBlock
end ProtocolTypes
