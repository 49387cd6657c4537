import ProtocolTypes.Module.EnumBlock
import ProtocolTypes.Proofs.Results
import ProtocolTypes.Proofs.Text.Pieces
import ProtocolTypes.Proofs.TypeTree.Reading

/-!
# The members of an enum are told by its text

A member stands under a documentation block that holds its description, and behind that its
first version and whether it is deprecated.  A description may imitate the lines behind it;
they are told apart from the end of the block, which is the first line that closes a
comment.  Two enums of one name therefore have the same text exactly when their members
agree one by one in all that is printed of them (`same_text_iff_members_agree`).
-/

namespace ProtocolTypes

/-! ## Documentation blocks -/

namespace DocBlock

/-- A blank ending of a line leaves no trace in its block. -/
theorem line_trimEnd (text : String) : line (Text.trimEnd text) = line text := by
  apply String.toList_injective
  simp only [line, Text.trimEnd_toList, String.toList_append, Text.dropEndWhile_append,
    Text.dropEndWhile_dropEndWhile]

/-- What is left of one line without its blank ending is a plain line. -/
theorem isPlainLine_trimEnd
    (text : String)
    (oneLine : '\n' ∉ text.toList) :
    IsPlainLine (Text.trimEnd text) := by
  constructor
  · intro newline
    rw [Text.trimEnd_toList] at newline
    exact oneLine ((Text.dropEndWhile_isPrefix Text.isBlank text.toList).subset newline)
  · apply String.toList_injective
    simp only [Text.trimEnd_toList, Text.dropEndWhile_dropEndWhile]

/-- A block tells its lines, up to their blank endings, and what follows it. -/
theorem eq_of_ended_lines_eq
    (first second : List String)
    (firstLines : ∀ text ∈ first, '\n' ∉ text.toList)
    (secondLines : ∀ text ∈ second, '\n' ∉ text.toList)
    (rest otherRest : List Char)
    (same : Text.ended (lines first) ++ rest = Text.ended (lines second) ++ otherRest) :
    first.map Text.trimEnd = second.map Text.trimEnd ∧ rest = otherRest := by
  have body (documentation : List String)
      (areLines : ∀ text ∈ documentation, '\n' ∉ text.toList) (behind : List Char) :
      readLines [] (Text.ended (documentation.map line ++ [" */"]) ++ behind) =
        some (documentation.map Text.trimEnd, behind) := by
    have trimmed : documentation.map line = (documentation.map Text.trimEnd).map line := by
      simp [line_trimEnd]
    rw [trimmed]
    apply readLines_body
    simp only [List.forall_mem_map]
    exact fun text isThere => isPlainLine_trimEnd text (areLines text isThere)
  have sameBody : Text.ended (first.map line ++ [" */"]) ++ rest =
      Text.ended (second.map line ++ [" */"]) ++ otherRest := by
    simpa [lines] using same
  have read := congrArg (readLines []) sameBody
  rw [body first firstLines rest, body second secondLines otherRest] at read
  simpa using read

end DocBlock

/-! ## One member -/

namespace EnumMember

/-- The parts of the member keep to their places: the identifier has no space in it, as one
of letters, digits, underscores and dollar signs has none; no line of the description and no
version ends in a blank; and the version and the written value are one line each. -/
structure IsPlain (member : EnumMember) : Prop where
  identifier : ' ' ∉ member.identifier.toList
  description : ∀ line ∈ Text.splitAt '\n' member.description, Text.trimEnd line = line
  initialVersion : DocBlock.IsPlainLine member.initialVersion
  value : ∀ text ∈ member.value.spelling?, '\n' ∉ text.toList

instance (member : EnumMember) : Decidable member.IsPlain :=
  decidable_of_iff
    (' ' ∉ member.identifier.toList ∧
      (∀ line ∈ Text.splitAt '\n' member.description, Text.trimEnd line = line) ∧
      DocBlock.IsPlainLine member.initialVersion ∧
      ∀ text ∈ member.value.spelling?, '\n' ∉ text.toList)
    ⟨fun ⟨identifier, description, initialVersion, value⟩ =>
        ⟨identifier, description, initialVersion, value⟩,
      fun plain => ⟨plain.identifier, plain.description, plain.initialVersion, plain.value⟩⟩

/-- The members agree in all that is printed of them. -/
structure PrintsAs (left right : EnumMember) : Prop where
  identifier : left.identifier = right.identifier
  description : left.description = right.description
  initialVersion : left.initialVersion = right.initialVersion
  deprecated : left.deprecated = right.deprecated
  value : left.value.spelling? = right.value.spelling?

/-- The line of a version without its blank ending. -/
def versionLine (version : String) : String :=
  Text.trimEnd ("Initial OBS Version: " ++ version)

/-- A version stands behind its label, and an empty one leaves the label alone. -/
theorem toList_versionLine
    (version : String)
    (plain : DocBlock.IsPlainLine version) :
    (versionLine version).toList =
      if version.toList = [] then "Initial OBS Version:".toList
      else "Initial OBS Version: ".toList ++ version.toList := by
  have untrimmed : Text.dropEndWhile Text.isBlank version.toList = version.toList := by
    rw [← Text.trimEnd_toList, plain.2]
  have label : Text.dropEndWhile Text.isBlank "Initial OBS Version: ".toList =
      "Initial OBS Version:".toList := by decide
  rw [versionLine, Text.trimEnd_toList, String.toList_append, Text.dropEndWhile_append,
    untrimmed, label]

theorem versionLine_inj
    {left right : String}
    (leftPlain : DocBlock.IsPlainLine left)
    (rightPlain : DocBlock.IsPlainLine right)
    (same : versionLine left = versionLine right) :
    left = right := by
  have sameCharacters := congrArg String.toList same
  rw [toList_versionLine left leftPlain, toList_versionLine right rightPlain] at sameCharacters
  apply String.toList_injective
  split at sameCharacters <;> split at sameCharacters <;> simp_all

/-- A version is no mark of deprecation. -/
theorem versionLine_ne_deprecated
    (version : String)
    (plain : DocBlock.IsPlainLine version) :
    versionLine version ≠ "@deprecated" := by
  intro same
  have sameCharacters := congrArg String.toList same
  rw [toList_versionLine version plain] at sameCharacters
  split at sameCharacters <;> simp at sameCharacters

/-- Of a plain member's documentation only the version can lose a blank ending. -/
theorem map_trimEnd_documentation
    (member : EnumMember)
    (plain : member.IsPlain) :
    member.documentation.map Text.trimEnd =
      Text.splitAt '\n' member.description ++ ["", versionLine member.initialVersion] ++
        (if member.deprecated then ["", "@deprecated"] else []) := by
  have kept : (Text.splitAt '\n' member.description).map Text.trimEnd =
      Text.splitAt '\n' member.description :=
    (List.map_congr_left plain.description).trans (List.map_id _)
  have empty : Text.trimEnd "" = "" := rfl
  have mark : Text.trimEnd "@deprecated" = "@deprecated" := by decide
  cases marked : member.deprecated <;>
    simp [documentation, marked, kept, empty, mark, versionLine]

/-- The end of a block tells the deprecation and the version, and the rest is the
description. -/
theorem eq_of_documentation_eq
    (left right : EnumMember)
    (leftPlain : left.IsPlain)
    (rightPlain : right.IsPlain)
    (same : left.documentation.map Text.trimEnd = right.documentation.map Text.trimEnd) :
    left.description = right.description ∧ left.initialVersion = right.initialVersion ∧
      left.deprecated = right.deprecated := by
  rw [map_trimEnd_documentation left leftPlain, map_trimEnd_documentation right rightPlain]
    at same
  have sameMark : left.deprecated = right.deprecated := by
    have sameEnd := congrArg List.getLast? same
    have leftVersion := versionLine_ne_deprecated _ leftPlain.initialVersion
    have rightVersion := versionLine_ne_deprecated _ rightPlain.initialVersion
    cases leftMark : left.deprecated <;> cases rightMark : right.deprecated
    · rfl
    · simp [leftMark, rightMark, leftVersion] at sameEnd
    · simp [leftMark, rightMark, Ne.symm rightVersion] at sameEnd
    · rfl
  rw [sameMark] at same
  have sameFront := List.append_cancel_right same
  obtain ⟨sameLines, sameVersion⟩ := List.append_inj' sameFront (by simp)
  simp only [List.cons.injEq, true_and, and_true] at sameVersion
  refine ⟨?_, versionLine_inj leftPlain.initialVersion rightPlain.initialVersion sameVersion,
    sameMark⟩
  rw [← Text.joinLines_splitAt left.description, sameLines, Text.joinLines_splitAt]

theorem notMem_of_mem_documentation
    (member : EnumMember)
    (plain : member.IsPlain)
    (line : String)
    (isLine : line ∈ member.documentation) :
    '\n' ∉ line.toList := by
  simp only [documentation, List.mem_append, List.mem_cons, List.not_mem_nil, or_false] at isLine
  rcases isLine with (described | rfl | rfl) | marked
  · obtain ⟨piece, isPiece, rfl⟩ := List.mem_map.mp described
    rw [String.toList_ofList]
    exact Text.not_mem_of_mem_splitOn '\n' member.description.toList piece isPiece
  · decide
  · simp [plain.initialVersion.1]
  · split at marked
    · simp only [List.mem_cons, List.not_mem_nil, or_false] at marked
      rcases marked with rfl | rfl <;> decide
    · cases marked

/-- What stands between a member's identifier and the end of its line. -/
def assignment (value : String) : List Char :=
  '=' :: ' ' :: (value.toList ++ [','])

theorem assignment_inj {left right : String} (same : assignment left = assignment right) :
    left = right := by
  apply String.toList_injective
  simpa [assignment] using same

/-- A member that can be written is its block and one more line, with the value as it was
given. -/
theorem exists_ended_of_lines?
    (member : EnumMember)
    (lines : List String)
    (written : member.lines? = some lines) :
    ∃ value, member.value.spelling? = some value ∧
      ∀ rest, Text.ended lines ++ rest =
        Text.ended (DocBlock.lines member.documentation) ++
          (member.identifier.toList ++ ' ' :: (assignment value ++ '\n' :: rest)) := by
  obtain ⟨value, isSpelling, rfl⟩ := Option.map_eq_some_iff.mp written
  refine ⟨value, isSpelling, fun rest => ?_⟩
  rw [← List.singleton_append, Text.ended_append, DocBlock.ended_text]
  simp [assignment]

/-- The text of a member tells what is printed of it, and where it ends. -/
theorem printsAs_of_ended_eq
    (left right : EnumMember)
    (leftPlain : left.IsPlain)
    (rightPlain : right.IsPlain)
    (leftLines rightLines : List String)
    (leftWritten : left.lines? = some leftLines)
    (rightWritten : right.lines? = some rightLines)
    (rest otherRest : List Char)
    (same : Text.ended leftLines ++ rest = Text.ended rightLines ++ otherRest) :
    left.PrintsAs right ∧ rest = otherRest := by
  obtain ⟨leftValue, leftSpelling, leftText⟩ :=
    exists_ended_of_lines? left leftLines leftWritten
  obtain ⟨rightValue, rightSpelling, rightText⟩ :=
    exists_ended_of_lines? right rightLines rightWritten
  rw [leftText, rightText] at same
  obtain ⟨sameBlock, sameLine⟩ := DocBlock.eq_of_ended_lines_eq left.documentation
    right.documentation (notMem_of_mem_documentation left leftPlain)
    (notMem_of_mem_documentation right rightPlain) _ _ same
  obtain ⟨sameDescription, sameVersion, sameMark⟩ :=
    eq_of_documentation_eq left right leftPlain rightPlain sameBlock
  obtain ⟨sameIdentifier, sameBack⟩ :=
    Text.eq_of_append_cons_eq leftPlain.identifier rightPlain.identifier sameLine
  have oneLine (value : String) (isOne : '\n' ∉ value.toList) : '\n' ∉ assignment value := by
    simp [assignment, isOne]
  obtain ⟨sameAssignment, sameRest⟩ := Text.eq_of_append_cons_eq
    (oneLine leftValue (leftPlain.value leftValue leftSpelling))
    (oneLine rightValue (rightPlain.value rightValue rightSpelling)) sameBack
  have sameValue : left.value.spelling? = right.value.spelling? := by
    rw [leftSpelling, rightSpelling, assignment_inj sameAssignment]
  exact ⟨⟨String.toList_injective sameIdentifier, sameDescription, sameVersion, sameMark,
    sameValue⟩, sameRest⟩

theorem PrintsAs.lines?_eq
    {left right : EnumMember}
    (agree : left.PrintsAs right) :
    left.lines? = right.lines? := by
  simp only [lines?, documentation, agree.identifier, agree.description, agree.initialVersion,
    agree.deprecated, agree.value]

end EnumMember

/-! ## The whole enum -/

namespace EnumBlock

/-- The members stand one after the other between the first line and the closing brace. -/
theorem text_eq_ok_iff
    (name : String)
    (members : List EnumMember)
    (text : String) :
    EnumBlock.text name members = .ok text ↔
      ∃ lines, members.mapM EnumMember.lines? = some lines ∧
        Text.ended ["export enum " ++ name ++ " \x7b"] ++ (Text.ended lines.flatten ++ ['\x7d']) =
          text.toList := by
  unfold EnumBlock.text lines?
  cases members.mapM EnumMember.lines? with
  | none => simp
  | some lines =>
      simp only [Option.map_some, Except.ok.injEq, Option.some.injEq, exists_eq_left',
        ← String.toList_inj, Text.joinLines_append_singleton]
      simp

/-- Members whose texts are the same up to the closing brace agree one by one. -/
theorem forall₂_printsAs_of_ended_eq
    (left right : List EnumMember)
    (leftPlain : ∀ member ∈ left, member.IsPlain)
    (rightPlain : ∀ member ∈ right, member.IsPlain)
    (leftLines rightLines : List (List String))
    (leftWritten :
      List.Forall₂ (fun member lines => member.lines? = some lines) left leftLines)
    (rightWritten :
      List.Forall₂ (fun member lines => member.lines? = some lines) right rightLines)
    (same : Text.ended leftLines.flatten ++ ['\x7d'] =
      Text.ended rightLines.flatten ++ ['\x7d']) :
    List.Forall₂ EnumMember.PrintsAs left right := by
  -- A member begins with the slash of its comment and the end of the enum with a brace.
  have begins (member : EnumMember) (lines : List String) (others : List (List String))
      (written : member.lines? = some lines) :
      Text.ended (lines :: others).flatten ++ ['\x7d'] ≠ ['\x7d'] := by
    obtain ⟨value, _, memberText⟩ := member.exists_ended_of_lines? lines written
    simp [memberText, DocBlock.lines]
  induction leftWritten generalizing right rightLines with
  | nil =>
      cases rightWritten with
      | nil => exact .nil
      | cons written _ => exact absurd same.symm (begins _ _ _ written)
  | cons leftFirst leftOthers inductionHypothesis =>
      cases rightWritten with
      | nil => exact absurd same (begins _ _ _ leftFirst)
      | cons rightFirst rightOthers =>
          obtain ⟨leftFirstPlain, leftPlain⟩ := List.forall_mem_cons.mp leftPlain
          obtain ⟨rightFirstPlain, rightPlain⟩ := List.forall_mem_cons.mp rightPlain
          simp only [List.flatten_cons, Text.ended_append, List.append_assoc] at same
          obtain ⟨agree, sameOthers⟩ := EnumMember.printsAs_of_ended_eq _ _ leftFirstPlain
            rightFirstPlain _ _ leftFirst rightFirst _ _ same
          exact .cons agree
            (inductionHypothesis _ leftPlain rightPlain _ rightOthers sameOthers)

/-- Members that agree one by one in what is printed of them have the same lines. -/
theorem lines?_eq_of_forall₂_printsAs
    (name : String)
    (left right : List EnumMember)
    (agree : List.Forall₂ EnumMember.PrintsAs left right) :
    lines? name left = lines? name right := by
  have sameLines : left.mapM EnumMember.lines? = right.mapM EnumMember.lines? := by
    induction agree with
    | nil => rfl
    | cons first _ inductionHypothesis =>
        simp only [List.mapM_cons, first.lines?_eq, inductionHypothesis]
  rw [lines?, lines?, sameLines]

/-- Two enums of one name with plain members have the same text exactly when they have the
same number of members and these agree one by one in all that is printed of them. -/
theorem same_text_iff_members_agree
    (name : String)
    (left right : List EnumMember)
    (leftPlain : ∀ member ∈ left, member.IsPlain)
    (rightPlain : ∀ member ∈ right, member.IsPlain)
    (text : String)
    (written : EnumBlock.text name left = .ok text) :
    EnumBlock.text name right = .ok text ↔ List.Forall₂ EnumMember.PrintsAs left right := by
  constructor
  · intro sameText
    obtain ⟨leftLines, leftWritten, leftText⟩ := (text_eq_ok_iff name left text).mp written
    obtain ⟨rightLines, rightWritten, rightText⟩ := (text_eq_ok_iff name right text).mp sameText
    have sameMembers := List.append_cancel_left (leftText.trans rightText.symm)
    exact forall₂_printsAs_of_ended_eq left right leftPlain rightPlain leftLines rightLines
      (forall₂_of_mapM _ _ _ leftWritten) (forall₂_of_mapM _ _ _ rightWritten) sameMembers
  · intro agree
    rw [← written, EnumBlock.text, EnumBlock.text, lines?_eq_of_forall₂_printsAs name _ _ agree]

/-- The description of the first member imitates the lines behind it and ends the comment. -/
def imitatingMembers : List EnumMember :=
  [{ description := "A\n\nInitial OBS Version: 4\n\n@deprecated\n*/\nOld = 1,"
     identifier := "$New_2", initialVersion := "5", value := .text "(1 << 3)" },
   { identifier := "Bare", deprecated := true, value := .text "-1" }]

/-- The members that are imitated, behind one another. -/
def imitatedMembers : List EnumMember :=
  [{ description := "A", identifier := "Old", initialVersion := "4", deprecated := true
     value := .text "1" },
   { identifier := "$New_2", initialVersion := "5", value := .text "(1 << 3)" },
   { identifier := "Bare", deprecated := true, value := .text "-1" }]

/-- The text of the enum with the imitating members. -/
def imitatingText : String :=
  Text.joinLines
    ["export enum Op \x7b",
      "/**", " * A", " *", " * Initial OBS Version: 4", " *", " * @deprecated", " * */",
      " * Old = 1,", " *", " * Initial OBS Version: 5", " */", "$New_2 = (1 << 3),",
      "/**", " *", " *", " * Initial OBS Version:", " *", " * @deprecated", " */", "Bare = -1,",
      "\x7d"]

theorem text_imitatingMembers :
    EnumBlock.text "Op" imitatingMembers = .ok imitatingText := by
  decide +kernel

theorem isPlain_of_mem_imitatingMembers : ∀ member ∈ imitatingMembers, member.IsPlain := by
  decide

theorem isPlain_of_mem_imitatedMembers : ∀ member ∈ imitatedMembers, member.IsPlain := by
  decide

theorem imitatingMembers_are_told_from_the_imitated :
    (∀ member ∈ imitatingMembers, member.IsPlain) ∧
      (∀ member ∈ imitatedMembers, member.IsPlain) ∧
      EnumBlock.text "Op" imitatingMembers = .ok imitatingText ∧
      EnumBlock.text "Op" imitatedMembers ≠ .ok imitatingText := by
  refine ⟨isPlain_of_mem_imitatingMembers, isPlain_of_mem_imitatedMembers,
    text_imitatingMembers, ?_⟩
  rw [ne_eq, same_text_iff_members_agree "Op" imitatingMembers imitatedMembers
    isPlain_of_mem_imitatingMembers isPlain_of_mem_imitatedMembers _ text_imitatingMembers]
  exact fun agree => absurd agree.length_eq (by decide)

end EnumBlock
end ProtocolTypes
