import ProtocolTypes.Proofs.Module.Declarations
import ProtocolTypes.Proofs.Module.NoData
import ProtocolTypes.Proofs.Results
import ProtocolTypes.Proofs.TypeTree.LineBreaks

/-!
# Line breaks in interfaces and overloads

The members of an interface and the overloads are made from the texts of requests and events.
Where none of these breaks a line but by newlines, neither do the members
(`onlyNewlines_interfaceText`) nor the overloads (`onlyNewlines_overloadText`).
-/

namespace ProtocolTypes

/-! ## The texts that sections are made from -/

namespace FieldRecord

/-- The texts of a record that its declaration is made from. -/
def sectionTexts (field : FieldRecord) : List String :=
  [field.name, field.description] ++ field.restrictions.toList ++ field.optionalBehavior.toList

/-- A descriptor has no other texts than its record. -/
theorem descriptor_texts_subset (kind : EntityKind) (field : FieldRecord) :
    (field.descriptor kind).path :: (field.descriptor kind).texts ⊆ field.sectionTexts := by
  intro text isThere
  cases kind with
  | request => simpa [descriptor, FieldDescriptor.texts, sectionTexts] using isThere
  | event | response =>
      have isOne : text = field.name ∨ text = field.description := by
        simpa [descriptor, FieldDescriptor.texts] using isThere
      rcases isOne with rfl | rfl <;> simp [sectionTexts]

end FieldRecord

/-- The texts of a request that its members and its overload are made from. -/
def Request.sectionTexts (request : Request) : List String :=
  [request.name, request.description, request.category, request.initialVersion,
    request.rpcVersion] ++
    (request.parameters ++ request.responses).flatMap FieldRecord.sectionTexts

/-- The texts of an event that its member and its overload are made from. -/
def Event.sectionTexts (event : Event) : List String :=
  [event.name, event.description, event.category, event.initialVersion, event.rpcVersion] ++
    event.payload.flatMap FieldRecord.sectionTexts

namespace Entity

/-- The texts that the member of the entity is made from. -/
def sectionTexts (entity : Entity) : List String :=
  entity.name :: entity.fields.flatMap FieldRecord.sectionTexts

/-- The member of an entity has no other line breaks than its texts. -/
theorem onlyNewlines_member
    (entity : Entity)
    (textsOnly : ∀ text ∈ entity.sectionTexts, Text.OnlyNewlines text)
    (declaration : String)
    (compiles : entity.declaration = .ok declaration) :
    Text.OnlyNewlines (entity.member declaration) := by
  have declarationOnly : Text.OnlyNewlines declaration := by
    by_cases empty : entity.fields = []
    · rw [Entity.declaration, empty] at compiles
      obtain rfl := Except.ok.inj compiles
      cases entity.kind <;> decide
    · obtain ⟨-, rfl⟩ := (entity.declaration_eq_ok_iff empty declaration).mp compiles
      apply TypeTree.onlyNewlines_render
      apply TypeTree.everywhere_build (by simp [Note.OnlyNewlines, Note.blank])
      intro descriptor isThere
      obtain ⟨field, isField, rfl⟩ := List.mem_map.mp isThere
      have fieldOnly (text : String)
          (isText : text ∈ (field.descriptor entity.kind).path ::
            (field.descriptor entity.kind).texts) :
          Text.OnlyNewlines text := by
        refine textsOnly text (List.mem_cons_of_mem _ (List.mem_flatMap.mpr ⟨field, isField, ?_⟩))
        exact field.descriptor_texts_subset entity.kind isText
      exact FieldDescriptor.brings_onlyNewlines _ (fieldOnly _ (by simp))
        fun text isText => fieldOnly text (by simp [isText])
  have nameOnly := textsOnly entity.name (by simp [sectionTexts])
  exact ((nameOnly.append (by decide)).append declarationOnly).append (by decide)

end Entity

namespace Digits

theorem onlyNewlines_repr (value : Nat) : Text.OnlyNewlines value.repr := by
  intro character isThere breaks
  rw [Nat.toList_repr] at isThere
  have isDigit := Nat.isDigit_of_mem_toDigits (by decide) (by decide) isThere
  simp only [Char.isDigit, Bool.and_eq_true, decide_eq_true_eq, UInt32.le_iff_toNat_le] at isDigit
  simp only [Text.isLineBreak, Char.toNat, Bool.or_eq_true, Bool.and_eq_true, decide_eq_true_eq,
    beq_iff_eq] at breaks
  exfalso
  have lower : 48 ≤ character.val.toNat := isDigit.1
  have upper : character.val.toNat ≤ 57 := isDigit.2
  omega

/-- The digits of a number break no line. -/
theorem onlyNewlines_of_text?
    (value : Int)
    (text : String)
    (written : text? value = some text) :
    Text.OnlyNewlines text := by
  unfold text? at written
  split at written
  · obtain rfl := Option.some.inj written
    rw [Int.toString_eq_repr]
    cases value with
    | ofNat magnitude => exact onlyNewlines_repr magnitude
    | negSucc magnitude => exact .append (by decide) (onlyNewlines_repr magnitude.succ)
  · cases written

end Digits

namespace Overloads

/-- The documentation of an overload has no other line breaks than its texts. -/
theorem onlyNewlines_documentation
    (description category initialVersion rpcVersion complexity : String)
    (deprecated : Bool)
    (textsOnly : ∀ text ∈ [description, category, initialVersion, rpcVersion, complexity],
      Text.OnlyNewlines text) :
    Text.OnlyNewlines (DocBlock.text
      (documentation description category initialVersion rpcVersion complexity deprecated)) := by
  apply DocBlock.onlyNewlines_text
  intro line isThere
  simp only [documentation, List.mem_append, or_assoc] at isThere
  rcases isThere with isPiece | isTagged | isMark
  · exact (textsOnly description (by simp)).of_mem_splitAt '\n' line isPiece
  · have tagsOnly : ∀ tag ∈ ["@category ", "@initialVersion ", "@rpcVersion ", "@complexity "],
        Text.OnlyNewlines tag := by
      decide +kernel
    simp only [List.mem_cons, List.not_mem_nil, or_false] at isTagged
    rcases isTagged with rfl | rfl | rfl | rfl | rfl
    · decide
    · exact (tagsOnly _ (by simp)).append (textsOnly category (by simp))
    · exact (tagsOnly _ (by simp)).append (textsOnly initialVersion (by simp))
    · exact (tagsOnly _ (by simp)).append (textsOnly rpcVersion (by simp))
    · exact (tagsOnly _ (by simp)).append (textsOnly complexity (by simp))
  · split at isMark
    · rw [List.mem_singleton.mp isMark]
      decide
    · cases isMark

theorem onlyNewlines_access
    (interface member : String)
    (interfaceOnly : Text.OnlyNewlines interface)
    (memberOnly : Text.OnlyNewlines member) :
    Text.OnlyNewlines (access interface member) :=
  ((interfaceOnly.append (by decide)).append memberOnly).append (by decide)

theorem onlyNewlines_call
    (request : Request)
    (nameOnly : Text.OnlyNewlines request.name) :
    Text.OnlyNewlines (call request) := by
  have dataOnly : Text.OnlyNewlines (requestData request) := by
    unfold requestData
    split
    · decide +kernel
    · exact .append (by decide +kernel) (onlyNewlines_access _ _ (by decide +kernel) nameOnly)
  have start : Text.OnlyNewlines ("call(requestType: '" ++ request.name ++ "', ") :=
    (Text.OnlyNewlines.append (by decide +kernel) nameOnly).append (by decide)
  have responseOnly := onlyNewlines_access "OBSResponseTypes" request.name (by decide +kernel)
    nameOnly
  exact (((start.append dataOnly).append (by decide +kernel)).append responseOnly).append
    (by decide)

theorem onlyNewlines_on
    (event : Event)
    (nameOnly : Text.OnlyNewlines event.name) :
    Text.OnlyNewlines (on event) := by
  have start : Text.OnlyNewlines ("on(event: '" ++ event.name ++ "', listener: (data: ") :=
    (Text.OnlyNewlines.append (by decide +kernel) nameOnly).append (by decide +kernel)
  have dataOnly := onlyNewlines_access "OBSEventTypes" event.name (by decide +kernel) nameOnly
  exact (start.append dataOnly).append (by decide +kernel)

/-- The overloads of a request break lines only where its texts do. -/
theorem onlyNewlines_of_mem_requestLines?
    (request : Request)
    (textsOnly : ∀ text ∈ request.sectionTexts, Text.OnlyNewlines text)
    (lines : List String)
    (written : requestLines? request = some lines)
    (line : String)
    (isThere : line ∈ lines) :
    Text.OnlyNewlines line := by
  obtain ⟨complexity, isComplexity, rfl⟩ := Option.map_eq_some_iff.mp written
  rcases List.mem_pair.mp isThere with rfl | rfl
  · have complexityOnly := Digits.onlyNewlines_of_text? _ _ isComplexity
    apply onlyNewlines_documentation
    simp_all [Request.sectionTexts]
  · exact onlyNewlines_call request (textsOnly request.name (by simp [Request.sectionTexts]))

/-- The overloads of an event break lines only where its texts do. -/
theorem onlyNewlines_of_mem_eventLines?
    (event : Event)
    (textsOnly : ∀ text ∈ event.sectionTexts, Text.OnlyNewlines text)
    (lines : List String)
    (written : eventLines? event = some lines)
    (line : String)
    (isThere : line ∈ lines) :
    Text.OnlyNewlines line := by
  obtain ⟨complexity, isComplexity, rfl⟩ := Option.map_eq_some_iff.mp written
  rcases List.mem_pair.mp isThere with rfl | rfl
  · have complexityOnly := Digits.onlyNewlines_of_text? _ _ isComplexity
    apply onlyNewlines_documentation
    simp_all [Event.sectionTexts]
  · exact onlyNewlines_on event (textsOnly event.name (by simp [Event.sectionTexts]))

end Overloads

/-- What stands in one of the images comes from one of the elements. -/
theorem exists_of_mem_flatten_mapM
    {α β : Type}
    (function : α → Option (List β))
    (elements : List α)
    (images : List (List β))
    (mapped : elements.mapM function = some images)
    (found : β)
    (isThere : found ∈ images.flatten) :
    ∃ element ∈ elements, ∃ image, function element = some image ∧ found ∈ image := by
  obtain ⟨image, isImage, inImage⟩ := List.mem_flatten.mp isThere
  obtain ⟨element, isElement, isMapped⟩ :=
    exists_of_forall₂ (forall₂_of_mapM function elements images mapped).flip image isImage
  exact ⟨element, isElement, image, isMapped, inImage⟩

namespace Protocol

/-- The texts of the protocol that the interfaces and the overloads are made from. -/
def sectionTexts (protocol : Protocol) : List String :=
  protocol.requests.flatMap Request.sectionTexts ++ protocol.events.flatMap Event.sectionTexts

/-- The texts of an entity are texts of the protocol. -/
theorem sectionTexts_entity_subset
    (protocol : Protocol)
    (kind : EntityKind)
    (entity : Entity)
    (isThere : entity ∈ protocol.entities kind) :
    entity.sectionTexts ⊆ protocol.sectionTexts := by
  intro text isText
  rw [sectionTexts, List.mem_append, List.mem_flatMap, List.mem_flatMap]
  cases kind with
  | event =>
      obtain ⟨event, isEvent, rfl⟩ := List.mem_map.mp isThere
      refine .inr ⟨event, isEvent, ?_⟩
      simp only [Entity.sectionTexts, List.mem_cons] at isText
      rcases isText with rfl | isText
      · simp [Event.sectionTexts]
      · exact List.mem_append_right _ isText
  | request | response =>
      obtain ⟨request, isRequest, rfl⟩ := List.mem_map.mp isThere
      refine .inl ⟨request, isRequest, ?_⟩
      simp only [Entity.sectionTexts, List.mem_cons] at isText
      rcases isText with rfl | isText
      · simp [Request.sectionTexts]
      · refine List.mem_append_right _ ?_
        rw [List.flatMap_append, List.mem_append]
        first | exact .inl isText | exact .inr isText

section

variable
  (protocol : Protocol)
  (textsOnly : ∀ text ∈ protocol.sectionTexts, Text.OnlyNewlines text)

include textsOnly

/-- The members of an interface have no line ends but newlines. -/
theorem onlyNewlines_interfaceText
    (mode : GenerationMode)
    (kind : EntityKind)
    (text : String)
    (written : protocol.interfaceText mode kind = .ok text) :
    Text.OnlyNewlines text := by
  have isText := eq_ok_of_mapError_eq_ok written
  rw [Interface.text_eq_of_ok mode _ text isText]
  apply Text.onlyNewlines_joinLines
  intro line isLine
  obtain ⟨entity, isEntity, isMember⟩ := List.mem_filterMap.mp isLine
  cases compiles : entity.declaration with
  | error failure => simp [Entity.member?, compiles, Except.map, Except.toOption] at isMember
  | ok declaration =>
      obtain rfl : entity.member declaration = line := by
        simpa [Entity.member?, compiles, Except.map, Except.toOption] using isMember
      exact entity.onlyNewlines_member
        (fun text isText => textsOnly text
          (protocol.sectionTexts_entity_subset kind entity isEntity isText))
        declaration compiles

/-- The overloads have no line ends but newlines. -/
theorem onlyNewlines_overloadText
    (overloads : Bool)
    (text : String)
    (written : protocol.overloadText overloads = .ok text) :
    Text.OnlyNewlines text := by
  cases overloads with
  | false =>
      obtain rfl : "" = text := Except.ok.inj written
      exact nofun
  | true =>
      have isText : Overloads.text protocol = .ok text := written
      unfold Overloads.text at isText
      split at isText
      · rename_i lines areLines
        obtain rfl := Except.ok.inj isText
        simp only [Overloads.lines?, Option.pure_def, Option.bind_eq_bind, Option.bind_eq_some_iff,
          Option.some.injEq] at areLines
        obtain ⟨requestLines, areRequests, eventLines, areEvents, rfl⟩ := areLines
        apply Text.onlyNewlines_joinLines
        intro line isLine
        rcases List.mem_append.mp isLine with isRequest | isEvent
        · obtain ⟨request, isThere, block, isBlock, inBlock⟩ :=
            exists_of_mem_flatten_mapM _ _ _ areRequests line isRequest
          refine Overloads.onlyNewlines_of_mem_requestLines? request ?_ block isBlock line inBlock
          exact fun text isText => textsOnly text
            (List.mem_append_left _ (List.mem_flatMap.mpr ⟨request, isThere, isText⟩))
        · obtain ⟨event, isThere, block, isBlock, inBlock⟩ :=
            exists_of_mem_flatten_mapM _ _ _ areEvents line isEvent
          refine Overloads.onlyNewlines_of_mem_eventLines? event ?_ block isBlock line inBlock
          exact fun text isText => textsOnly text
            (List.mem_append_right _ (List.mem_flatMap.mpr ⟨event, isThere, isText⟩))
      · cases isText

end

end Protocol

end ProtocolTypes
