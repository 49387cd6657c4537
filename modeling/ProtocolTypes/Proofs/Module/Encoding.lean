import ProtocolTypes.Module.Source
import ProtocolTypes.Text.Surrogate

/-!
# Encoding a module

The fixed lines of a module have no surrogates, and moving lines in adds and removes nothing
but line breaks and margins.  So a module can be encoded exactly if the parts can that depend
on the protocol (`isEncodable_source`).
-/

namespace ProtocolTypes

namespace Text

variable [StandIns]

/-- A text that is spelled with near characters can be encoded. -/
theorem isEncodable_ofList
    (characters : List Char)
    (areNear : (characters.all fun character => decide (character.toNat < 0xF0000)) = true) :
    isEncodable (String.ofList characters) = true := by
  refine isEncodable_of_forall_lt _ fun character isThere => ?_
  rw [String.toList_ofList] at isThere
  exact of_decide_eq_true (List.all_eq_true.mp areNear character isThere)

/-- Joined lines can be encoded exactly if all of them can. -/
theorem isEncodable_joinLines (lines : List String) :
    isEncodable (joinLines lines) = lines.all isEncodable := by
  have newline : isEncodable "\n" = true := isEncodable_ofList _ (by decide)
  induction lines with
  | nil => rfl
  | cons first rest inductionHypothesis =>
      cases rest with
      | nil => simp
      | cons second rest => simp [inductionHypothesis, newline]

/-- Line breaks stand in for no surrogate. -/
theorem isEncodable_of_isLineBreak (character : Char) (breaks : isLineBreak character = true) :
    (StandIns.surrogate? character).isNone = true := by
  have isNear : character.toNat < 0xF0000 := by
    simp [isLineBreak] at breaks
    omega
  rw [StandIns.surrogate?_of_lt character isNear]
  rfl

/-- The lines of a text can be encoded exactly if the text can. -/
theorem all_isEncodable_splitLines (text : String) :
    (splitLines text).all isEncodable = isEncodable text := by
  have lines := all_splitLinesFrom (fun character => (StandIns.surrogate? character).isNone)
    isEncodable_of_isLineBreak [] text.toList
  simpa [splitLines, isEncodable, Function.comp_def] using lines

/-- Moved in by a margin that can be encoded a text can be encoded exactly if it could
before. -/
theorem isEncodable_indent
    (margin text : String)
    (marginEncodable : isEncodable margin = true) :
    isEncodable (indent margin text) = isEncodable text := by
  have moved (line : String) :
      isEncodable (if line.isEmpty then line else margin ++ line) = isEncodable line := by
    split
    · rfl
    · rw [isEncodable_append, marginEncodable, Bool.true_and]
  have newline : isEncodable "\n" = true := isEncodable_ofList _ (by decide)
  have lines := all_isEncodable_splitLines (text ++ "\n")
  rw [isEncodable_append, newline, Bool.and_true] at lines
  rw [indent, isEncodable_joinLines, ← lines]
  cases splitLines (text ++ "\n") with
  | nil => simp [indentLines, marginEncodable]
  | cons first rest =>
      simp only [indentLines, List.all_cons, List.all_map, Function.comp_def, moved,
        isEncodable_append, marginEncodable, Bool.true_and]

end Text

variable [StandIns]

namespace MessageTypes

set_option maxRecDepth 4000 in
theorem isEncodable_of_mem_lines : ∀ line ∈ lines, Text.isEncodable line = true := by
  simp only [lines, List.flatMap_cons, List.flatMap_nil, List.forall_mem_append,
    List.forall_mem_cons, incomingMessage, outgoingMessage, incomingMessageTypes,
    outgoingMessageTypes, eventMessage, requestMessage, requestBatchRequest, requestBatchOptions,
    requestBatchMessage, responseMessage, responseBatchMessage]
  and_intros
  all_goals first
    | exact Text.isEncodable_ofList _ (by decide +kernel)
    | exact List.forall_mem_nil _

end MessageTypes

namespace ModuleParts

/-- The texts of its own that a module is made from. -/
def ownTexts (parts : ModuleParts) : List String :=
  [parts.enums.operationCodes, parts.enums.eventSubscriptions, parts.enums.batchExecutionTypes,
    parts.events, parts.requests, parts.responses, parts.overloads]

theorem isEncodable_of_mem_opening : ∀ line ∈ opening, Text.isEncodable line = true := by
  simp only [opening, List.forall_mem_cons]
  and_intros
  all_goals first
    | exact Text.isEncodable_ofList _ (by decide +kernel)
    | exact List.forall_mem_nil _

/-- What can be encoded of the lines of the enums are their blocks. -/
theorem forall_enumLines_iff (enums : EnumBlocks) :
    (∀ line ∈ enumLines enums, Text.isEncodable line = true) ↔
      Text.isEncodable enums.operationCodes = true ∧
        Text.isEncodable enums.eventSubscriptions = true ∧
        Text.isEncodable enums.batchExecutionTypes = true := by
  simp only [enumLines, List.forall_mem_cons, Text.isEncodable_append, Bool.and_eq_true]
  constructor
  · rintro ⟨first, -, -, second, -, -, third, -⟩
    exact ⟨first, second, third⟩
  · rintro ⟨first, second, third⟩
    refine ⟨first, ?_, ?_, second, ?_, ?_, third, ?_⟩
    all_goals and_intros
    all_goals first
      | exact Text.isEncodable_ofList _ (by decide +kernel)
      | exact List.forall_mem_nil _

theorem forall_interfaceLines_iff
    (name members : String)
    (nameEncodable : Text.isEncodable name = true) :
    (∀ line ∈ interfaceLines name members, Text.isEncodable line = true) ↔
      Text.isEncodable members = true := by
  have margin : Text.isEncodable "\t" = true := Text.isEncodable_ofList _ (by decide +kernel)
  simp only [interfaceLines, List.forall_mem_cons, Text.isEncodable_append, Bool.and_eq_true,
    Text.isEncodable_indent _ _ margin]
  constructor
  · rintro ⟨-, encodable, -⟩
    exact encodable
  · intro encodable
    refine ⟨⟨⟨?_, nameEncodable⟩, ?_⟩, encodable, ?_, List.forall_mem_nil _⟩
    all_goals exact Text.isEncodable_ofList _ (by decide +kernel)

theorem forall_overloadLines_iff (overloads : String) :
    (∀ line ∈ overloadLines overloads, Text.isEncodable line = true) ↔
      Text.isEncodable overloads = true := by
  unfold overloadLines
  split
  · next isEmpty =>
      rw [String.isEmpty_iff.mp isEmpty]
      exact iff_of_true nofun rfl
  · have margin : Text.isEncodable "\t\t" = true := Text.isEncodable_ofList _ (by decide +kernel)
    simp only [List.forall_mem_cons, Text.isEncodable_indent _ _ margin]
    constructor
    · rintro ⟨-, -, -, -, encodable, -⟩
      exact encodable
    · intro encodable
      refine ⟨?_, ?_, ?_, ?_, encodable, ?_, ?_, List.forall_mem_nil _⟩
      all_goals exact Text.isEncodable_ofList _ (by decide +kernel)

/-- A module can be encoded exactly if the texts can that it is made from. -/
theorem isEncodable_source (parts : ModuleParts) :
    Text.isEncodable parts.source = parts.ownTexts.all Text.isEncodable := by
  have newline : Text.isEncodable "\n" = true := Text.isEncodable_ofList _ (by decide)
  have comment : Text.isEncodable "// Events" = true := Text.isEncodable_ofList _ (by decide)
  have commentToo : Text.isEncodable "// Requests and Responses" = true :=
    Text.isEncodable_ofList _ (by decide +kernel)
  rw [source, Text.isEncodable_append, newline, Bool.and_true, Text.isEncodable_joinLines,
    Bool.eq_iff_iff, List.all_eq_true, List.all_eq_true]
  simp only [ownTexts, List.forall_mem_append, List.forall_mem_cons, interfacesLines,
    forall_enumLines_iff, forall_overloadLines_iff,
    forall_interfaceLines_iff "OBSEventTypes" _ (Text.isEncodable_ofList _ (by decide +kernel)),
    forall_interfaceLines_iff "OBSRequestTypes" _ (Text.isEncodable_ofList _ (by decide +kernel)),
    forall_interfaceLines_iff "OBSResponseTypes" _ (Text.isEncodable_ofList _ (by decide +kernel))]
  constructor
  · rintro ⟨⟨⟨⟨-, first, second, third⟩, -⟩, ⟨⟨⟨⟨⟨-, -⟩, events⟩, -⟩, requests⟩, -⟩, responses⟩,
      overloads⟩
    exact ⟨first, second, third, events, requests, responses, overloads, List.forall_mem_nil _⟩
  · rintro ⟨first, second, third, events, requests, responses, overloads, -⟩
    refine ⟨⟨⟨⟨isEncodable_of_mem_opening, first, second, third⟩,
      MessageTypes.isEncodable_of_mem_lines⟩, ⟨⟨⟨⟨⟨comment, List.forall_mem_nil _⟩, events⟩,
      rfl, commentToo, List.forall_mem_nil _⟩, requests⟩, rfl, List.forall_mem_nil _⟩, responses⟩,
      overloads⟩

end ModuleParts

end ProtocolTypes
