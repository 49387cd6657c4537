import ProtocolTypes.Proofs.Text.Pieces

/-!
# Moving lines in and back out

A text whose lines end only at newlines is indented line by line (`splitAt_indent`), and no
line of it is lost: taking the margin away gives the lines back (`outdent_indentLines`).  A
block that is moved in ends at the first line that stands further out
(`cutsOut_of_splitAt_eq`).
-/

namespace ProtocolTypes
namespace Text

/-! ## Lines that end only at newlines -/

/-- No character of the text breaks a line but the newline. -/
def OnlyNewlines (text : String) : Prop :=
  ∀ character ∈ text.toList, isLineBreak character = true → character = '\n'

instance (text : String) : Decidable (OnlyNewlines text) :=
  decidable_of_iff (text.toList.all fun character => !isLineBreak character || character == '\n')
    (by simp [OnlyNewlines, or_iff_not_imp_left])

/-- A text has no other line breaks than one with the same characters and more. -/
theorem OnlyNewlines.of_subset
    {whole part : String}
    (onlyNewlines : OnlyNewlines whole)
    (isPart : part.toList ⊆ whole.toList) :
    OnlyNewlines part :=
  fun character isThere => onlyNewlines character (isPart isThere)

theorem onlyNewlines_append_iff (left right : String) :
    OnlyNewlines (left ++ right) ↔ OnlyNewlines left ∧ OnlyNewlines right := by
  simp only [OnlyNewlines, String.toList_append, List.mem_append, or_imp, forall_and]

theorem OnlyNewlines.append
    {left right : String}
    (leftOnly : OnlyNewlines left)
    (rightOnly : OnlyNewlines right) :
    OnlyNewlines (left ++ right) :=
  (onlyNewlines_append_iff left right).mpr ⟨leftOnly, rightOnly⟩

/-- Joining lines adds newlines alone. -/
theorem onlyNewlines_joinLines
    (lines : List String)
    (linesOnly : ∀ line ∈ lines, OnlyNewlines line) :
    OnlyNewlines (joinLines lines) := by
  induction lines with
  | nil => exact nofun
  | cons first rest inductionHypothesis =>
      have restOnly := inductionHypothesis fun line isThere => linesOnly line (by simp [isThere])
      have firstOnly := linesOnly first (by simp)
      cases rest with
      | nil => rwa [joinLines_singleton]
      | cons second rest =>
          rw [joinLines_cons_cons]
          exact (firstOnly.append (by decide)).append restOnly

theorem OnlyNewlines.of_mem_splitAt
    {text : String}
    (onlyNewlines : OnlyNewlines text)
    (separator : Char)
    (piece : String)
    (isPiece : piece ∈ splitAt separator text) :
    OnlyNewlines piece := by
  obtain ⟨characters, arePiece, rfl⟩ := List.mem_map.mp isPiece
  apply onlyNewlines.of_subset
  rw [String.toList_ofList]
  exact (isInfix_of_mem_splitOn separator _ _ arePiece).subset

/-- Where no other character breaks a line, the lines end at the newlines. -/
theorem splitLinesFrom_append_newline
    (characters current : List Char)
    (onlyNewlines : ∀ character ∈ characters, isLineBreak character = true → character = '\n') :
    splitLinesFrom current (characters ++ ['\n']) =
      characters.splitOnPPrepend (· == '\n') current := by
  induction characters generalizing current with
  | nil => rfl
  | cons character rest inductionHypothesis =>
      have restOnly := fun other isThere => onlyNewlines other (List.mem_cons_of_mem _ isThere)
      have noReturn : character ≠ '\r' := by
        rintro rfl
        exact absurd (onlyNewlines '\r' (by simp) rfl) (by decide)
      rw [List.cons_append, splitLinesFrom, List.splitOnPPrepend_cons_eq_if]
      · by_cases isNewline : character = '\n'
        · subst isNewline
          rw [if_pos (by decide), if_pos (by decide), inductionHypothesis [] restOnly]
          rfl
        · have noBreak : ¬ isLineBreak character = true :=
            fun breaks => isNewline (onlyNewlines character (by simp) breaks)
          rw [if_neg noBreak, if_neg (by simpa using isNewline),
            inductionHypothesis (character :: current) restOnly]
      · exact fun _ isReturn => absurd isReturn noReturn

theorem splitLines_append_newline
    (text : String)
    (onlyNewlines : OnlyNewlines text) :
    splitLines (text ++ "\n") = splitAt '\n' text := by
  have newline : "\n".toList = ['\n'] := rfl
  rw [splitLines, String.toList_append, newline,
    splitLinesFrom_append_newline text.toList [] onlyNewlines]
  rfl

/-! ## Moving lines in -/

/-- A line without the margin that it may begin with. -/
def outdentLine (margin line : String) : String :=
  if margin.toList.isPrefixOf line.toList then
    String.ofList (line.toList.drop margin.toList.length)
  else line

theorem outdentLine_append (margin line : String) :
    outdentLine margin (margin ++ line) = line := by
  simp [outdentLine, List.isPrefixOf_iff_prefix]

theorem outdentLine_empty (margin : String) : outdentLine margin "" = "" := by
  simp [outdentLine]

/-- Taking the margin away gives back the lines that were moved in. -/
theorem outdent_indentLines
    (margin : String)
    (lines : List String)
    (present : lines ≠ []) :
    (indentLines margin lines).map (outdentLine margin) = lines := by
  cases lines with
  | nil => exact absurd rfl present
  | cons first rest =>
      have back (line : String) :
          outdentLine margin (if line.isEmpty then line else margin ++ line) = line := by
        split
        · rename_i isEmpty
          rw [String.isEmpty_iff.mp isEmpty, outdentLine_empty]
        · exact outdentLine_append margin line
      simp only [indentLines, List.map_cons, List.map_map, Function.comp_def, outdentLine_append,
        back, List.map_id']

/-- A line that has something and does not begin with the margin is not moved in. -/
theorem not_mem_indentLines
    (margin closing : String)
    (present : closing ≠ "")
    (furtherOut : ¬ margin.toList <+: closing.toList)
    (lines : List String) :
    closing ∉ indentLines margin lines := by
  have notMoved (line : String) : closing ≠ margin ++ line := by
    rintro rfl
    exact furtherOut (by simp)
  have noMargin : closing ≠ margin := by
    simpa using notMoved ""
  cases lines with
  | nil => simpa [indentLines] using noMargin
  | cons first rest =>
      simp only [indentLines, List.mem_cons, List.mem_map, not_or, not_exists, not_and]
      refine ⟨notMoved first, fun line _ => ?_⟩
      split
      · rename_i isEmpty
        rw [String.isEmpty_iff.mp isEmpty]
        exact present.symm
      · exact (notMoved line).symm

/-- What is moved in stays a line. -/
theorem not_mem_of_mem_indentLines
    (margin : String)
    (marginIsLine : '\n' ∉ margin.toList)
    (lines : List String)
    (areLines : ∀ line ∈ lines, '\n' ∉ line.toList)
    (line : String)
    (isThere : line ∈ indentLines margin lines) :
    '\n' ∉ line.toList := by
  have moved (other : String) (isLine : '\n' ∉ other.toList) : '\n' ∉ (margin ++ other).toList := by
    simp [marginIsLine, isLine]
  cases lines with
  | nil =>
      obtain rfl := List.mem_singleton.mp isThere
      exact marginIsLine
  | cons first rest =>
      rcases List.mem_cons.mp isThere with rfl | later
      · exact moved first (areLines first (by simp))
      · obtain ⟨other, isRest, rfl⟩ := List.mem_map.mp later
        have isLine := areLines other (by simp [isRest])
        split
        · exact isLine
        · exact moved other isLine

/-- A text whose lines end only at newlines is moved in line by line. -/
theorem splitAt_indent
    (margin : String)
    (marginIsLine : '\n' ∉ margin.toList)
    (text : String)
    (onlyNewlines : OnlyNewlines text) :
    splitAt '\n' (indent margin text) = indentLines margin (splitAt '\n' text) := by
  rw [indent, splitLines_append_newline text onlyNewlines]
  apply splitAt_joinLines_of_lines
  · obtain ⟨first, rest, isLines⟩ := List.exists_cons_of_ne_nil (splitAt_ne_nil '\n' text)
    simp [isLines, indentLines]
  · refine not_mem_of_mem_indentLines margin marginIsLine _ fun line isLine => ?_
    obtain ⟨piece, isPiece, rfl⟩ := List.mem_map.mp isLine
    rw [String.toList_ofList]
    exact not_mem_of_mem_splitOn '\n' text.toList piece isPiece

/-! ## Cutting a block out -/

/-- The lines of a source behind the first ones, up to the first that is the closing one. -/
def linesBehind (first : Nat) (closing source : String) : List String :=
  ((splitAt '\n' source).drop first).takeWhile (· ≠ closing)

/-- Behind these lines of the source the text stands moved in by the margin up to the first
closing line, so that it can be cut out again. -/
structure CutsOut (source : String) (before : List String) (margin closing text : String) :
    Prop where
  stands : before ++ indentLines margin (splitAt '\n' text) ++ [closing] <+: splitAt '\n' source
  cut : linesBehind before.length closing source = indentLines margin (splitAt '\n' text)
  restored : joinLines ((linesBehind before.length closing source).map (outdentLine margin)) = text

/-- A text that stands between lines of the source can be cut out if the line behind it
stands further out. -/
theorem cutsOut_of_splitAt_eq
    (source : String)
    (before after : List String)
    (margin closing text : String)
    (marginIsLine : '\n' ∉ margin.toList)
    (present : closing ≠ "")
    (furtherOut : ¬ margin.toList <+: closing.toList)
    (onlyNewlines : OnlyNewlines text)
    (isSource : splitAt '\n' source =
      before ++ splitAt '\n' (indent margin text) ++ closing :: after) :
    CutsOut source before margin closing text := by
  rw [splitAt_indent margin marginIsLine text onlyNewlines] at isSource
  have notClosing : ∀ line ∈ indentLines margin (splitAt '\n' text), line ≠ closing := by
    rintro line isThere rfl
    exact not_mem_indentLines margin line present furtherOut _ isThere
  have cut : linesBehind before.length closing source = indentLines margin (splitAt '\n' text) := by
    rw [linesBehind, isSource, List.append_assoc, List.drop_left,
      List.takeWhile_append_of_pos (by simpa using notClosing)]
    simp
  refine ⟨⟨after, ?_⟩, cut, ?_⟩
  · rw [isSource, List.append_assoc _ [closing], List.singleton_append]
  · rw [cut, outdent_indentLines margin _ (splitAt_ne_nil '\n' text), joinLines_splitAt]

end Text
end ProtocolTypes
