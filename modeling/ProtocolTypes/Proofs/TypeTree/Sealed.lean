import ProtocolTypes.Proofs.Text.Comments
import ProtocolTypes.Proofs.TypeTree.Everywhere
import ProtocolTypes.Proofs.TypeTree.Undocumented
import ProtocolTypes.Proofs.TypeTree.UniqueText

/-!
# Trees whose documentation stays in its comments

A tree is sealed when no documentation line in it closes a comment and no name has a slash.
Growing keeps a tree sealed (`sealed_build`), and the text of a sealed tree holds the same
code as the text of the tree without its documentation (`codeOf_render`).
-/

namespace ProtocolTypes

/-- No line of the documentation closes a comment. -/
def Note.Sealed (note : Note) : Prop :=
  ∀ text ∈ note.documentation, ¬ Text.ClosesComment text.toList

theorem Note.sealed_blank : Note.blank.Sealed := by
  simp [Sealed, blank]

namespace FieldDescriptor

/-- The texts of the descriptor that documentation is made from. -/
def texts (descriptor : FieldDescriptor) : List String :=
  descriptor.description ::
    (descriptor.restrictions.toList ++ descriptor.defaultBehavior.toList)

/-- The path has no slash and no text closes a comment. -/
structure Sealed (descriptor : FieldDescriptor) : Prop where
  path : '/' ∉ descriptor.path.toList
  texts : ∀ text ∈ descriptor.texts, ¬ Text.ClosesComment text.toList

theorem Sealed.segment
    {descriptor : FieldDescriptor}
    (isSealed : descriptor.Sealed)
    (segment : String)
    (isThere : segment ∈ descriptor.segments) :
    '/' ∉ segment.toList := by
  obtain ⟨piece, isPiece, rfl⟩ := List.mem_map.mp isThere
  have inside := Text.isInfix_of_mem_splitOn '.' descriptor.path.toList piece isPiece
  intro slash
  rw [String.toList_ofList] at slash
  exact isSealed.path (inside.subset slash)

/-- A line of a leaf's documentation is one of the description, or a text under a tag. -/
theorem mem_documentation_leafNote
    (descriptor : FieldDescriptor)
    (line : String)
    (isThere : line ∈ descriptor.leafNote.documentation) :
    line ∈ Text.splitAt '\n' descriptor.description ∨
      ∃ tag ∈ ["@restrictions", "@defaultValue"], ∃ said ∈ descriptor.texts,
        line = tag ++ " " ++ said := by
  have described (isLine : line ∈ descriptionLines descriptor.description) :
      line ∈ Text.splitAt '\n' descriptor.description := by
    unfold descriptionLines at isLine
    split at isLine
    · cases isLine
    · exact isLine
  have tagged (tag : String) (text : Option String) (isLine : line ∈ taggedLine tag text) :
      ∃ said ∈ text.toList, line = tag ++ " " ++ said := by
    unfold taggedLine at isLine
    split at isLine
    · split at isLine
      · cases isLine
      · exact ⟨_, by simp, List.mem_singleton.mp isLine⟩
    · cases isLine
  unfold leafNote at isThere
  split at isThere
  · simp only [List.mem_append, or_assoc] at isThere
    rcases isThere with isLine | isLine | isLine
    · exact .inl (described isLine)
    · obtain ⟨said, isSaid, isLine⟩ := tagged _ _ isLine
      exact .inr ⟨"@restrictions", by simp, said, by simp [texts, isSaid], isLine⟩
    · obtain ⟨said, isSaid, isLine⟩ := tagged _ _ isLine
      exact .inr ⟨"@defaultValue", by simp, said, by simp [texts, isSaid], isLine⟩
  · exact .inl (described isThere)
  · exact .inl (described isThere)

/-- Sealed texts make a sealed note. -/
theorem Sealed.leafNote
    {descriptor : FieldDescriptor}
    (isSealed : descriptor.Sealed) :
    descriptor.leafNote.Sealed := by
  intro line isThere closes
  rcases descriptor.mem_documentation_leafNote line isThere with
    isLine | ⟨tag, isTag, said, isSaid, rfl⟩
  · obtain ⟨piece, isPiece, rfl⟩ := List.mem_map.mp isLine
    rw [String.toList_ofList] at closes
    exact isSealed.texts descriptor.description (by simp [FieldDescriptor.texts])
      (closes.trans (Text.isInfix_of_mem_splitOn _ _ _ isPiece))
  · have saidOpen := isSealed.texts said isSaid
    have tagOpen : ¬ Text.ClosesComment tag.toList := by
      rcases List.mem_pair.mp isTag with rfl | rfl <;> decide
    have space : " ".toList = [' '] := rfl
    rw [String.toList_append, String.toList_append, space, List.append_assoc,
      List.singleton_append, Text.closesComment_append_iff _ _ (by simp),
      Text.closesComment_cons_iff] at closes
    simp [tagOpen, saidOpen] at closes

end FieldDescriptor

namespace TypeTree

mutual

/-- No documentation of the tree closes a comment, and no name in it has a slash. -/
def Sealed : TypeTree → Prop
  | scalar _ note => note.Sealed
  | opaqueJson note => note.Sealed
  | object properties note => note.Sealed ∧ SealedProperties properties
  | array element note => note.Sealed ∧ Sealed element

/-- The properties have names without a slash and sealed trees. -/
def SealedProperties : List (String × TypeTree) → Prop
  | [] => True
  | (name, tree) :: rest => '/' ∉ name.toList ∧ Sealed tree ∧ SealedProperties rest

end

theorem Sealed.note {tree : TypeTree} (isSealed : tree.Sealed) : tree.note.Sealed := by
  cases tree with
  | scalar kind note => exact isSealed
  | opaqueJson note => exact isSealed
  | object properties note => exact isSealed.1
  | array element note => exact isSealed.1

/-- A sealed tree is one whose names and notes are plain and sealed everywhere. -/
theorem sealed_iff_everywhere (tree : TypeTree) :
    tree.Sealed ↔ tree.Everywhere (fun name => '/' ∉ name.toList) Note.Sealed := by
  induction tree using induction with
  | scalar kind note => exact Iff.rfl
  | opaqueJson note => exact Iff.rfl
  | array element note inductionHypothesis => simp only [Sealed, Everywhere, inductionHypothesis]
  | object properties note inductionHypothesis =>
      simp only [Sealed, Everywhere, and_congr_right_iff]
      intro _
      induction properties with
      | nil => exact Iff.rfl
      | cons property rest restHypothesis =>
          obtain ⟨name, tree⟩ := property
          have first := inductionHypothesis name tree (by simp)
          have others := restHypothesis fun other child isThere =>
            inductionHypothesis other child (by simp [isThere])
          simp only [SealedProperties, EverywhereBelow, first, others]

/-- Sealed descriptors build a sealed tree. -/
theorem sealed_build
    (descriptors : List FieldDescriptor)
    (areSealed : ∀ descriptor ∈ descriptors, descriptor.Sealed) :
    (build descriptors).tree.Sealed :=
  (sealed_iff_everywhere _).mpr <| everywhere_build Note.sealed_blank descriptors
    fun descriptor isThere =>
      ⟨(areSealed descriptor isThere).segment, (areSealed descriptor isThere).leafNote⟩

/-! ## The code of a declaration -/

/-- Only an object without properties is written as one whose shape nobody described. -/
theorem render_eq_jsonObject_iff (tree : TypeTree) :
    tree.render = jsonObject ↔ ∃ note, tree = object [] note := by
  constructor
  · intro widened
    have characters := congrArg String.toList widened
    cases tree with
    | scalar kind note => cases kind <;> simp [render, ScalarKind.spelling, jsonObject] at widened
    | opaqueJson note => simp [render, jsonValue, jsonObject] at widened
    | array element note =>
        rw [render, arrayText] at characters
        split at characters <;> simp [jsonObject] at characters
    | object properties note =>
        cases properties with
        | nil => exact ⟨note, rfl⟩
        | cons property rest =>
            rw [toList_render_object] at characters
            simp [jsonObject] at characters
  · rintro ⟨note, rfl⟩
    rfl

theorem render_undocumented_eq_jsonObject_iff (tree : TypeTree) :
    tree.undocumented.render = jsonObject ↔ tree.render = jsonObject := by
  rw [render_eq_jsonObject_iff, render_eq_jsonObject_iff]
  cases tree with
  | object properties note =>
      cases properties <;> simp [undocumented, undocumentedProperties]
  | _ => simp [undocumented]

/-- The text of the tree holds the code of the tree without its documentation. -/
def KeepsCode (tree : TypeTree) : Prop :=
  Text.CodeOf tree.render.toList tree.undocumented.render.toList

/-- The members of an object hold the code of its members without documentation. -/
theorem codeOf_renderMembers
    (properties : List (String × TypeTree))
    (areSealed : SealedProperties properties)
    (childrenKeep : ∀ name child, (name, child) ∈ properties → child.Sealed → child.KeepsCode) :
    Text.CodeOf ('\n' :: Text.ended (renderMembers properties))
      ('\n' :: Text.ended (renderMembers (undocumentedProperties properties))) := by
  induction properties with
  | nil => exact .of_noSlash _ (by decide)
  | cons property others inductionHypothesis =>
      obtain ⟨name, child⟩ := property
      obtain ⟨noSlash, childSealed, othersSealed⟩ := areSealed
      have others := inductionHypothesis othersSealed fun other tree isThere =>
        childrenKeep other tree (by simp [isThere])
      have declaration := childrenKeep name child (by simp) childSealed
      have block := DocBlock.codeOf_blockOver child.note.documentation childSealed.note
      have noSlashSeparator : '/' ∉ (separator child.note.optional).toList := by
        cases child.note.optional <;> decide
      have member := (((Text.CodeOf.of_noSlash name.toList noSlash).append
        (.of_noSlash _ noSlashSeparator)).append declaration).append
          (.of_noSlash [';'] (by decide))
      have whole := block.append (member.append others)
      rw [undocumentedProperties, renderMembers, renderMembers, Text.ended_append,
        Text.ended_append, ended_memberLines, ended_memberLines, note_undocumented]
      simpa [memberText, DocBlock.blockOver, Note.undocumented] using whole

/-- The text of a sealed tree holds the code of the tree without documentation. -/
theorem codeOf_render (tree : TypeTree) (isSealed : tree.Sealed) : tree.KeepsCode := by
  induction tree using induction with
  | scalar kind note =>
      exact .of_noSlash kind.spelling.toList (by cases kind <;> decide)
  | opaqueJson note => exact .of_noSlash jsonValue.toList (by decide)
  | object properties note inductionHypothesis =>
      cases properties with
      | nil => exact .of_noSlash jsonObject.toList (by decide)
      | cons property others =>
          have members := codeOf_renderMembers (property :: others) isSealed.2 inductionHypothesis
          have opening := Text.CodeOf.of_noSlash ['\x7b'] (by decide)
          have closing := Text.CodeOf.of_noSlash ['\x7d'] (by decide)
          have whole := (opening.append members).append closing
          rw [KeepsCode, undocumented, undocumentedProperties, toList_render_object,
            toList_render_object]
          simpa [undocumentedProperties] using whole
  | array element note inductionHypothesis =>
      have elementKept := inductionHypothesis isSealed.2
      rw [KeepsCode, undocumented, render, render, arrayText, arrayText]
      by_cases widened : element.render = jsonObject
      · rw [if_pos widened, if_pos ((render_undocumented_eq_jsonObject_iff element).mpr widened)]
        exact .of_noSlash _ (by decide)
      · have stays := (render_undocumented_eq_jsonObject_iff element).not.mpr widened
        rw [if_neg widened, if_neg stays]
        have whole := ((Text.CodeOf.of_noSlash "Array<".toList (by decide)).append elementKept).append
          (.of_noSlash ['>'] (by decide))
        simpa using whole

end TypeTree
end ProtocolTypes
