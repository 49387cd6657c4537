import ProtocolTypes.Proofs.Module.Modes
import ProtocolTypes.Proofs.Results
import ProtocolTypes.Proofs.Text.Pieces

/-!
# What overloads refer to

An overload refers to members of the interfaces by name: that of a request to its response
and, where it has parameters, to these; that of an event to its payload.  Every request and
every event has its overload, also one that is left out of an interface.  In keep-going mode
a reference therefore names a member of the same module or an entity that is reported as
left out, and both kinds of reference occur.  Where names have no quotes and no brackets,
nothing else is referred to (`mem_references_of_standsIn`).
-/

namespace ProtocolTypes

/-- The interface whose members declare the entities of a kind. -/
def EntityKind.interfaceName : EntityKind → String
  | event => "OBSEventTypes"
  | request => "OBSRequestTypes"
  | response => "OBSResponseTypes"

namespace Overloads

/-- A member of the interface for a kind that an overload refers to. -/
structure Reference where
  kind : EntityKind
  name : String
  deriving DecidableEq, Repr

namespace Reference

/-- The reference as it is written. -/
def text (reference : Reference) : String :=
  access reference.kind.interfaceName reference.name

/-- The reference stands somewhere in the line. -/
def StandsIn (reference : Reference) (line : String) : Prop :=
  ∃ before after, line = before ++ reference.text ++ after

end Reference

/-- The references of a request's overload. -/
def callReferences (request : Request) : List Reference :=
  if request.parameters.isEmpty then [⟨.response, request.name⟩]
  else [⟨.request, request.name⟩, ⟨.response, request.name⟩]

/-- The references of an event's overload. -/
def onReferences (event : Event) : List Reference := [⟨.event, event.name⟩]

/-- The references of all overloads of a protocol. -/
def references (protocol : Protocol) : List Reference :=
  protocol.requests.flatMap callReferences ++ protocol.events.flatMap onReferences

theorem standsIn_call
    (request : Request)
    (reference : Reference)
    (isThere : reference ∈ callReferences request) :
    reference.StandsIn (call request) := by
  have response : Reference.StandsIn ⟨.response, request.name⟩ (call request) := by
    refine ⟨"call(requestType: '" ++ request.name ++ "', " ++ requestData request ++
      "): Promise<", ">;", ?_⟩
    unfold call Reference.text EntityKind.interfaceName
    rfl
  unfold callReferences at isThere
  split at isThere
  · obtain rfl := List.mem_singleton.mp isThere
    exact response
  · rename_i hasParameters
    rcases List.mem_pair.mp isThere with rfl | rfl
    · refine ⟨"call(requestType: '" ++ request.name ++ "', " ++ "requestData: ",
        "): Promise<" ++ access "OBSResponseTypes" request.name ++ ">;", ?_⟩
      unfold call requestData Reference.text EntityKind.interfaceName
      rw [if_neg hasParameters]
      simp only [String.append_assoc]
    · exact response

theorem standsIn_on (event : Event) : Reference.StandsIn ⟨.event, event.name⟩ (on event) := by
  refine ⟨"on(event: '" ++ event.name ++ "', listener: (data: ", ") => void): this;", ?_⟩
  unfold on Reference.text EntityKind.interfaceName
  rfl

/-- Every reference stands in a line of the overloads. -/
theorem exists_line_of_mem_references
    (protocol : Protocol)
    (lines : List String)
    (written : lines? protocol = some lines)
    (reference : Reference)
    (isThere : reference ∈ references protocol) :
    ∃ line ∈ lines, reference.StandsIn line := by
  simp only [lines?, Option.pure_def, Option.bind_eq_bind, Option.bind_eq_some_iff,
    Option.some.injEq] at written
  obtain ⟨requestLines, areRequests, eventLines, areEvents, rfl⟩ := written
  simp only [references, List.mem_append, List.mem_flatMap] at isThere
  rcases isThere with ⟨request, listed, isThere⟩ | ⟨event, listed, isThere⟩
  · obtain ⟨lines, areThere, areLines⟩ :=
      exists_of_forall₂ (forall₂_of_mapM _ _ _ areRequests) request listed
    obtain ⟨complexity, _, rfl⟩ := Option.map_eq_some_iff.mp areLines
    refine ⟨call request, ?_, standsIn_call request reference isThere⟩
    exact List.mem_append_left _ (List.mem_flatten.mpr ⟨_, areThere, by simp⟩)
  · obtain ⟨lines, areThere, areLines⟩ :=
      exists_of_forall₂ (forall₂_of_mapM _ _ _ areEvents) event listed
    obtain ⟨complexity, _, rfl⟩ := Option.map_eq_some_iff.mp areLines
    refine ⟨on event, ?_, List.mem_singleton.mp isThere ▸ standsIn_on event⟩
    exact List.mem_append_right _ (List.mem_flatten.mpr ⟨_, areThere, by simp⟩)

/-! ## No other references -/

/-- A name that neither opens nor closes an access. -/
structure IsPlainName (name : String) : Prop where
  noBracket : '[' ∉ name.toList
  noQuote : '\'' ∉ name.toList

theorem Reference.toList_text (reference : Reference) :
    reference.text.toList = reference.kind.interfaceName.toList ++
      '[' :: '\'' :: (reference.name.toList ++ ['\'', ']']) := by
  simp [Reference.text, access]

/-- No interface's name ends in another's. -/
theorem kind_eq_of_append_eq
    {kind other : EntityKind}
    {front before : List Char}
    (same : front ++ kind.interfaceName.toList = before ++ other.interfaceName.toList) :
    kind = other := by
  have reversed := congrArg List.reverse same
  cases kind <;> cases other <;> first | rfl | simp [EntityKind.interfaceName] at reversed

/-- No access stands in a text without brackets. -/
theorem not_standsIn_of_noBracket
    {text : String}
    (noBracket : '[' ∉ text.toList)
    (reference : Reference) :
    ¬reference.StandsIn text := by
  rintro ⟨before, after, rfl⟩
  simp [reference.toList_text] at noBracket

/-- What stands in a text with an access, and no bracket before it, is that access or stands
behind it. -/
theorem eq_or_standsIn_of_standsIn
    {front back name : String}
    (noBracket : '[' ∉ front.toList)
    (isPlain : IsPlainName name)
    (kind : EntityKind)
    {reference : Reference}
    (isPlainToo : IsPlainName reference.name)
    (stands : reference.StandsIn (front ++ access kind.interfaceName name ++ back)) :
    reference = ⟨kind, name⟩ ∨ reference.StandsIn ("'" ++ name ++ "']" ++ back) := by
  obtain ⟨before, after, same⟩ := stands
  have frontFree : '[' ∉ front.toList ++ kind.interfaceName.toList := by
    cases kind <;> simpa [EntityKind.interfaceName] using noBracket
  have same : (front.toList ++ kind.interfaceName.toList) ++
      '[' :: '\'' :: (name.toList ++ '\'' :: ']' :: back.toList) =
      before.toList ++ reference.text.toList ++ after.toList := by
    simpa [access] using congrArg String.toList same
  by_cases isFirst : '[' ∈ before.toList
  · right
    obtain ⟨outer, inner, isBefore, outerFree⟩ := List.eq_append_cons_of_mem isFirst
    have split : (front.toList ++ kind.interfaceName.toList) ++
        '[' :: '\'' :: (name.toList ++ '\'' :: ']' :: back.toList) =
        outer ++ '[' :: (inner ++ reference.text.toList ++ after.toList) := by
      rw [same, isBefore]
      simp
    obtain ⟨-, isBack⟩ := Text.eq_of_append_cons_eq frontFree outerFree split
    refine ⟨String.ofList inner, after, String.toList_injective ?_⟩
    simpa using isBack
  · left
    have beforeFree : '[' ∉ before.toList ++ reference.kind.interfaceName.toList := by
      cases reference.kind <;> simpa [EntityKind.interfaceName] using isFirst
    have split : (front.toList ++ kind.interfaceName.toList) ++
        '[' :: '\'' :: (name.toList ++ '\'' :: ']' :: back.toList) =
        (before.toList ++ reference.kind.interfaceName.toList) ++
          '[' :: '\'' :: (reference.name.toList ++ '\'' :: ']' :: after.toList) := by
      rw [same, reference.toList_text]
      simp
    obtain ⟨sameFront, sameBack⟩ := Text.eq_of_append_cons_eq frontFree beforeFree split
    obtain ⟨sameName, -⟩ := Text.eq_of_append_cons_eq isPlain.noQuote isPlainToo.noQuote
      (List.cons_eq_cons.mp sameBack).2
    obtain rfl := kind_eq_of_append_eq sameFront
    obtain rfl := String.toList_injective sameName
    rfl

/-- In the overload of an event no other access stands. -/
theorem eq_of_standsIn_on
    (event : Event)
    (isPlain : IsPlainName event.name)
    {reference : Reference}
    (isPlainToo : IsPlainName reference.name)
    (stands : reference.StandsIn (on event)) :
    reference = ⟨.event, event.name⟩ := by
  have noBracket : '[' ∉ ("on(event: '" ++ event.name ++ "', listener: (data: ").toList := by
    simp [isPlain.noBracket]
  refine (eq_or_standsIn_of_standsIn noBracket isPlain .event isPlainToo stands).resolve_right ?_
  exact not_standsIn_of_noBracket (by simp [isPlain.noBracket]) reference

/-- In the overload of a request no other accesses stand. -/
theorem mem_callReferences_of_standsIn
    (request : Request)
    (isPlain : IsPlainName request.name)
    {reference : Reference}
    (isPlainToo : IsPlainName reference.name)
    (stands : reference.StandsIn (call request)) :
    reference ∈ callReferences request := by
  -- Behind the access to the response no bracket is left.
  have response {front : String} (noBracket : '[' ∉ front.toList)
      (stands : reference.StandsIn (front ++ access "OBSResponseTypes" request.name ++ ">;")) :
      reference = ⟨.response, request.name⟩ := by
    refine (eq_or_standsIn_of_standsIn noBracket isPlain .response isPlainToo
      stands).resolve_right ?_
    exact not_standsIn_of_noBracket (by simp [isPlain.noBracket]) reference
  unfold call requestData at stands
  unfold callReferences
  split at stands
  · next noParameters =>
      rw [if_pos noParameters, List.mem_singleton]
      exact response (by simp [isPlain.noBracket]) stands
  · next hasParameters =>
      rw [if_neg hasParameters, List.mem_pair]
      have isCall : "call(requestType: '" ++ request.name ++ "', " ++
            ("requestData: " ++ access "OBSRequestTypes" request.name) ++ "): Promise<" ++
            access "OBSResponseTypes" request.name ++ ">;" =
          ("call(requestType: '" ++ request.name ++ "', " ++ "requestData: ") ++
            access "OBSRequestTypes" request.name ++
            ("): Promise<" ++ access "OBSResponseTypes" request.name ++ ">;") := by
        simp only [String.append_assoc]
      rw [isCall] at stands
      refine (eq_or_standsIn_of_standsIn (by simp [isPlain.noBracket]) isPlain .request isPlainToo
        stands).imp_right fun standsBehind => ?_
      simp only [← String.append_assoc] at standsBehind
      exact response (by simp [isPlain.noBracket]) standsBehind

/-- A line of the overloads is a documentation block or an overload. -/
theorem block_or_overload_of_mem_lines
    (protocol : Protocol)
    (lines : List String)
    (written : lines? protocol = some lines)
    (line : String)
    (isLine : line ∈ lines) :
    (∃ documentation, line = DocBlock.text documentation) ∨
      (∃ request ∈ protocol.requests, line = call request) ∨
      ∃ event ∈ protocol.events, line = on event := by
  simp only [lines?, Option.pure_def, Option.bind_eq_bind, Option.bind_eq_some_iff,
    Option.some.injEq] at written
  obtain ⟨requestLines, areRequests, eventLines, areEvents, rfl⟩ := written
  rcases List.mem_append.mp isLine with isRequest | isEvent
  · obtain ⟨pair, isPair, isInside⟩ := List.mem_flatten.mp isRequest
    obtain ⟨request, listed, isOverload⟩ :=
      exists_of_forall₂ (forall₂_of_mapM _ _ _ areRequests).flip pair isPair
    obtain ⟨complexity, _, rfl⟩ := Option.map_eq_some_iff.mp isOverload
    rcases List.mem_pair.mp isInside with rfl | rfl
    · exact .inl ⟨_, rfl⟩
    · exact .inr (.inl ⟨request, listed, rfl⟩)
  · obtain ⟨pair, isPair, isInside⟩ := List.mem_flatten.mp isEvent
    obtain ⟨event, listed, isOverload⟩ :=
      exists_of_forall₂ (forall₂_of_mapM _ _ _ areEvents).flip pair isPair
    obtain ⟨complexity, _, rfl⟩ := Option.map_eq_some_iff.mp isOverload
    rcases List.mem_pair.mp isInside with rfl | rfl
    · exact .inl ⟨_, rfl⟩
    · exact .inr (.inr ⟨event, listed, rfl⟩)

/-- Every access that stands in an overload is one of the references. -/
theorem mem_references_of_standsIn
    (protocol : Protocol)
    (requestsPlain : ∀ request ∈ protocol.requests, IsPlainName request.name)
    (eventsPlain : ∀ event ∈ protocol.events, IsPlainName event.name)
    (lines : List String)
    (written : lines? protocol = some lines)
    (line : String)
    (isLine : line ∈ lines)
    (noBlock : ∀ documentation, line ≠ DocBlock.text documentation)
    (reference : Reference)
    (isPlain : IsPlainName reference.name)
    (stands : reference.StandsIn line) :
    reference ∈ references protocol := by
  rw [references, List.mem_append, List.mem_flatMap, List.mem_flatMap]
  rcases block_or_overload_of_mem_lines protocol lines written line isLine with
    ⟨documentation, isBlock⟩ | ⟨request, listed, rfl⟩ | ⟨event, listed, rfl⟩
  · exact absurd isBlock (noBlock documentation)
  · exact .inl ⟨request, listed, mem_callReferences_of_standsIn request
      (requestsPlain request listed) isPlain stands⟩
  · refine .inr ⟨event, listed, ?_⟩
    rw [onReferences, List.mem_singleton]
    exact eq_of_standsIn_on event (eventsPlain event listed) isPlain stands

/-! ## What is referred to -/

/-- What a reference refers to is an entity of the protocol. -/
theorem exists_entity_of_mem_references
    (protocol : Protocol)
    (reference : Reference)
    (isThere : reference ∈ references protocol) :
    ∃ entity ∈ protocol.entities reference.kind, entity.name = reference.name := by
  simp only [references, List.mem_append, List.mem_flatMap] at isThere
  rcases isThere with ⟨request, listed, isThere⟩ | ⟨event, listed, isThere⟩
  · have both : reference = ⟨.request, request.name⟩ ∨ reference = ⟨.response, request.name⟩ := by
      unfold callReferences at isThere
      split at isThere <;> simp_all
    rcases both with rfl | rfl
    · exact ⟨_, List.mem_map_of_mem listed, rfl⟩
    · exact ⟨_, List.mem_map_of_mem listed, rfl⟩
  · rw [List.mem_singleton.mp isThere]
    exact ⟨_, List.mem_map_of_mem listed, rfl⟩

end Overloads

/-- The members of the interface for a kind. -/
def ModuleParts.members (parts : ModuleParts) : EntityKind → String
  | .event => parts.events
  | .request => parts.requests
  | .response => parts.responses

namespace Protocol

/-- Among the members that declare the entities of a kind there is one of that name. -/
def HasMember (protocol : Protocol) (kind : EntityKind) (members name : String) : Prop :=
  ∃ lines, List.Forall₂ Entity.DeclaredBy
      ((protocol.entities kind).filter Entity.compiles) lines ∧
    members = Text.joinLines lines ∧ ∃ declaration, name ++ ": " ++ declaration ++ ";" ∈ lines

/-- An entity that compiles has a member of its name. -/
theorem hasMember_of_compiles
    (protocol : Protocol)
    (kind : EntityKind)
    (members : String)
    (membersOf : protocol.MembersOf kind members)
    (entity : Entity)
    (listed : entity ∈ protocol.entities kind)
    (compiles : entity.compiles = true) :
    protocol.HasMember kind members entity.name := by
  obtain ⟨lines, declared, rfl⟩ := membersOf
  refine ⟨lines, declared, rfl, ?_⟩
  obtain ⟨line, isThere, declaration, _, rfl⟩ :=
    exists_of_forall₂ declared entity (List.mem_filter.mpr ⟨listed, compiles⟩)
  exact ⟨declaration, isThere⟩

/-- The entities of a kind are among all entities of the protocol. -/
theorem mem_entities_append
    (protocol : Protocol)
    (kind : EntityKind)
    (entity : Entity)
    (listed : entity ∈ protocol.entities kind) :
    entity.kind = kind ∧ entity ∈ protocol.entities .event ++ protocol.entities .request ++
      protocol.entities .response := by
  constructor
  · cases kind <;> obtain ⟨_, _, rfl⟩ := List.mem_map.mp listed <;> rfl
  · cases kind <;> simp [listed]

/-- The overloads of a module are made of lines, and every reference stands in one. -/
theorem exists_overloadLines
    (protocol : Protocol)
    (text : String)
    (hasText : protocol.overloadText true = .ok text) :
    ∃ lines, text = Text.joinLines lines ∧
      ∀ reference ∈ Overloads.references protocol, ∃ line ∈ lines, reference.StandsIn line := by
  have isText : Overloads.text protocol = .ok text := hasText
  unfold Overloads.text at isText
  split at isText
  · rename_i lines written
    exact ⟨lines, (Except.ok.inj isText).symm,
      Overloads.exists_line_of_mem_references protocol lines written⟩
  · cases isText

/-- What a reference names is a member of the module's interface for its kind, or an entity
that is reported as left out. -/
theorem hasMember_or_reported
    (protocol : Protocol)
    (parts : ModuleParts)
    (records : List EntityFailure)
    (inModes : protocol.GeneratedInModes true parts records)
    (reference : Overloads.Reference)
    (isThere : reference ∈ Overloads.references protocol) :
    protocol.HasMember reference.kind (parts.members reference.kind) reference.name ∨
      ∃ record ∈ records, record.kind = reference.kind ∧ record.name = reference.name := by
  obtain ⟨entity, listed, named⟩ :=
    Overloads.exists_entity_of_mem_references protocol reference isThere
  obtain ⟨sameKind, amongAll⟩ := protocol.mem_entities_append reference.kind entity listed
  cases compiled : entity.compiles with
  | true =>
      have membersOf : protocol.MembersOf reference.kind (parts.members reference.kind) := by
        cases reference.kind
        · exact inModes.events
        · exact inModes.requests
        · exact inModes.responses
      exact .inl (named ▸ protocol.hasMember_of_compiles _ _ membersOf entity listed compiled)
  | false =>
      obtain ⟨record, isRecord, reported⟩ := exists_of_forall₂ inModes.reports entity
        (List.mem_filter.mpr ⟨amongAll, by simp [compiled]⟩)
      exact .inr ⟨record, isRecord, reported.kind.trans sameKind, reported.name.trans named⟩

/-- In keep-going mode every reference that stands in the overloads names a member of the
module's interface for its kind, or an entity that is reported as left out. -/
theorem reference_has_member_or_is_reported
    (protocol : Protocol)
    (generated : GeneratedModule)
    (succeeds : protocol.generate .keepGoing true = .ok generated) :
    ∃ parts lines, protocol.GeneratedInModes true parts generated.failures ∧
      generated.source = parts.source ∧ parts.overloads = Text.joinLines lines ∧
      ∀ reference ∈ Overloads.references protocol,
        (∃ line ∈ lines, reference.StandsIn line) ∧
          (protocol.HasMember reference.kind (parts.members reference.kind) reference.name ∨
            ∃ record ∈ generated.failures,
              record.kind = reference.kind ∧ record.name = reference.name) := by
  obtain ⟨blocks, text, hasBlocks, hasText⟩ :=
    protocol.written_of_generate_keepGoing true generated succeeds
  obtain ⟨parts, records, inModes⟩ :=
    protocol.generatedInModes true blocks text hasBlocks hasText
  obtain rfl : _ = generated := Except.ok.inj (inModes.keepGoing.symm.trans succeeds)
  obtain ⟨lines, areLines, stand⟩ := protocol.exists_overloadLines _ inModes.overloadText
  exact ⟨parts, lines, inModes, rfl, areLines, fun reference isThere =>
    ⟨stand reference isThere, protocol.hasMember_or_reported parts records inModes reference isThere⟩⟩

theorem sampleProtocol_references_are_accounted_for :
    ∃ generated, sampleProtocol.generate .keepGoing true = .ok generated ∧
      ∃ parts lines, sampleProtocol.GeneratedInModes true parts generated.failures ∧
        generated.source = parts.source ∧ parts.overloads = Text.joinLines lines ∧
        ∀ reference ∈ Overloads.references sampleProtocol,
          (∃ line ∈ lines, reference.StandsIn line) ∧
            (sampleProtocol.HasMember reference.kind (parts.members reference.kind)
                reference.name ∨
              ∃ record ∈ generated.failures,
                record.kind = reference.kind ∧ record.name = reference.name) := by
  obtain ⟨parts, records, inModes⟩ :=
    sampleProtocol.generatedInModes_of_writable true sampleProtocol_writable rfl
  exact ⟨_, inModes.keepGoing,
    reference_has_member_or_is_reported sampleProtocol _ inModes.keepGoing⟩

/-- Not every reference names a member: an overload of the sample protocol refers to a
response that its module leaves out. -/
theorem sampleProtocol_refers_to_no_member :
    sampleProtocol.missingEnum? = none ∧
      ∃ parts records lines, sampleProtocol.GeneratedInModes true parts records ∧
        parts.overloads = Text.joinLines lines ∧
        (∃ line ∈ lines, Overloads.Reference.StandsIn ⟨.response, "Get"⟩ line) ∧
        ¬sampleProtocol.HasMember .response parts.responses "Get" := by
  obtain ⟨parts, records, inModes⟩ :=
    sampleProtocol.generatedInModes_of_writable true sampleProtocol_writable rfl
  obtain ⟨lines, areLines, stand⟩ := sampleProtocol.exists_overloadLines _ inModes.overloadText
  have isReference : ⟨.response, "Get"⟩ ∈ Overloads.references sampleProtocol := by
    simp [Overloads.references, sampleProtocol, Overloads.callReferences]
  refine ⟨rfl, parts, records, lines, inModes, areLines, stand _ isReference, ?_⟩
  rintro ⟨members, declared, _, declaration, isThere⟩
  have nothing : (sampleProtocol.entities .response).filter Entity.compiles = [] := by cbv
  rw [nothing, List.forall₂_nil_left_iff] at declared
  rw [declared] at isThere
  cases isThere

end Protocol
end ProtocolTypes
