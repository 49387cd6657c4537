import ProtocolTypes.Proofs.Text.Indentation
import ProtocolTypes.Proofs.TypeTree.Sealed

/-!
# Line breaks in declarations

Where no text of the fields breaks a line but by newlines, neither does the declaration that
is made from them (`onlyNewlines_render`).
-/

namespace ProtocolTypes

/-- No line of the documentation has a line break other than newlines. -/
def Note.OnlyNewlines (note : Note) : Prop :=
  ∀ line ∈ note.documentation, Text.OnlyNewlines line

namespace DocBlock

/-- A documentation block has no other line breaks than its texts. -/
theorem onlyNewlines_text
    (documentation : List String)
    (linesOnly : ∀ line ∈ documentation, Text.OnlyNewlines line) :
    Text.OnlyNewlines (text documentation) := by
  apply Text.onlyNewlines_joinLines
  intro printed isThere
  simp only [lines, List.mem_append, List.mem_cons, List.mem_map, List.not_mem_nil, or_false]
    at isThere
  rcases isThere with (rfl | ⟨said, isSaid, rfl⟩) | rfl
  · decide
  · have marked : Text.OnlyNewlines (" * " ++ said) :=
      .append (by decide) (linesOnly said isSaid)
    refine marked.of_subset ?_
    rw [String.toList_append]
    exact (isInfix_line said).subset
  · decide

end DocBlock

/-- What a descriptor with such texts has for a tree has no other line breaks, either. -/
theorem FieldDescriptor.brings_onlyNewlines
    (descriptor : FieldDescriptor)
    (pathOnly : Text.OnlyNewlines descriptor.path)
    (textsOnly : ∀ text ∈ descriptor.texts, Text.OnlyNewlines text) :
    descriptor.Brings Text.OnlyNewlines Note.OnlyNewlines where
  segments := pathOnly.of_mem_splitAt '.'
  leafNote := by
    intro line isThere
    rcases descriptor.mem_documentation_leafNote line isThere with
      isLine | ⟨tag, isTag, said, isSaid, rfl⟩
    · exact (textsOnly descriptor.description (by simp [texts])).of_mem_splitAt '\n' line isLine
    · have tagOnly : Text.OnlyNewlines tag := by
        rcases List.mem_pair.mp isTag with rfl | rfl <;> decide
      exact (tagOnly.append (by decide)).append (textsOnly said isSaid)

namespace TypeTree

/-- The members of an object have no other line breaks than its names, notes and children. -/
theorem onlyNewlines_of_mem_renderMembers
    (properties : List (String × TypeTree))
    (hold : EverywhereBelow Text.OnlyNewlines Note.OnlyNewlines properties)
    (childrenOnly : ∀ name child, (name, child) ∈ properties →
      child.Everywhere Text.OnlyNewlines Note.OnlyNewlines → Text.OnlyNewlines child.render)
    (text : String)
    (isThere : text ∈ renderMembers properties) :
    Text.OnlyNewlines text := by
  induction properties with
  | nil => cases isThere
  | cons property rest inductionHypothesis =>
      obtain ⟨name, child⟩ := property
      obtain ⟨nameOnly, childHolds, restHold⟩ := hold
      rw [renderMembers, memberLines] at isThere
      rcases List.mem_append.mp isThere with isMember | isRest
      · rcases List.mem_append.mp isMember with isBlock | isLine
        · split at isBlock
          · cases isBlock
          · rw [List.mem_singleton.mp isBlock]
            exact DocBlock.onlyNewlines_text _ childHolds.note
        · have separatorOnly : Text.OnlyNewlines (separator child.note.optional) := by
            cases child.note.optional <;> decide
          have childOnly := childrenOnly name child (by simp) childHolds
          rw [List.mem_singleton.mp isLine]
          exact ((nameOnly.append separatorOnly).append childOnly).append (by decide)
      · exact inductionHypothesis restHold
          (fun other tree isThere => childrenOnly other tree (by simp [isThere])) isRest

/-- A declaration has no other line breaks than the names and notes of its tree. -/
theorem onlyNewlines_render
    (tree : TypeTree)
    (holds : tree.Everywhere Text.OnlyNewlines Note.OnlyNewlines) :
    Text.OnlyNewlines tree.render := by
  induction tree using induction with
  | scalar kind note =>
      rw [render]
      cases kind <;> decide
  | opaqueJson note =>
      rw [render]
      decide
  | array element note inductionHypothesis =>
      have elementOnly := inductionHypothesis holds.2
      rw [render, arrayText]
      split
      · decide
      · exact (Text.OnlyNewlines.append (by decide) elementOnly).append (by decide)
  | object properties note inductionHypothesis =>
      rw [render]
      split
      · decide
      · apply Text.onlyNewlines_joinLines
        intro text isThere
        simp only [List.mem_cons, List.mem_append, List.not_mem_nil, or_false] at isThere
        rcases isThere with rfl | isMember | rfl
        · decide
        · exact onlyNewlines_of_mem_renderMembers properties holds.2 inductionHypothesis text
            isMember
        · decide

end TypeTree
end ProtocolTypes
