import Mathlib.Algebra.Group.Nat.Defs
import ProtocolTypes.Module.Source
import ProtocolTypes.Proofs.TypeTree.FieldList
import ProtocolTypes.Proofs.TypeTree.Refusal

/-!
# The two modes of generation

Keep-going mode leaves out exactly the entities that have no declaration and reports each
of them.  Strict mode has the same outcome where nothing is reported, and otherwise ends
with the failure that is reported first.  Neither mode gets as far as an entity while an
enum is missing.

A number of too many digits cannot be written and ends the work in either mode; `Writable`
says that the module needs none.
-/

namespace ProtocolTypes

namespace Digits

/-- A number is written exactly when it has no more digits than may be written. -/
theorem isSome_text?_iff (value : Int) :
    (text? value).isSome ↔ value.natAbs < 10 ^ maxDecimalDigits := by
  unfold text?
  split <;> simp_all

end Digits

namespace EnumValue

/-- An integer has no more digits than may be written. -/
def Writable (value : EnumValue) : Prop :=
  ∀ number, value = .int number → number.natAbs < 10 ^ Digits.maxDecimalDigits

theorem isSome_spelling?_iff (value : EnumValue) :
    value.spelling?.isSome ↔ value.Writable := by
  cases value <;> simp [spelling?, Writable, Digits.isSome_text?_iff]

end EnumValue

namespace Entity

/-- Whether the entity has a declaration. -/
def compiles (entity : Entity) : Bool := entity.declaration.isOk

theorem compiles_of_ok
    {entity : Entity}
    {declaration : String}
    (compiled : entity.declaration = .ok declaration) :
    entity.compiles = true := by
  rw [compiles, compiled]
  rfl

theorem compiles_of_error
    {entity : Entity}
    {failure : SchemaFailure}
    (refused : entity.declaration = .error failure) :
    entity.compiles = false := by
  rw [compiles, refused]
  rfl

/-- The line declares the entity as its own compilation does. -/
def DeclaredBy (entity : Entity) (line : String) : Prop :=
  ∃ declaration, entity.compile.result = .ok declaration ∧
    line = entity.name ++ ": " ++ declaration ++ ";"

/-- The record tells how compiling the entity fails: with a failure that is labelled with
the entity and names the path of one of its fields. -/
structure ReportedBy (entity : Entity) (record : EntityFailure) : Prop where
  kind : record.kind = entity.kind
  name : record.name = entity.name
  fails : entity.compile.result = .error record.failure
  labelled : record.failure.entity = some (entity.kind.spelling ++ " " ++ entity.name)
  located : ∃ field ∈ entity.fields, record.failure.fault.path = some field.name

/-- A failing declaration blames one of the entity's fields. -/
theorem located_of_declaration
    (entity : Entity)
    (failure : SchemaFailure)
    (fails : entity.declaration = .error failure) :
    failure.entity = some entity.label ∧
      ∃ field ∈ entity.fields, failure.fault.path = some field.name := by
  unfold declaration at fails
  split at fails
  · cases fails
  · split at fails
    · cases fails
    · rename_i fault refused
      have isFault : entity.growth.fault = some fault := by
        unfold Growth.result at refused
        split at refused
        · rename_i reason found
          rw [found, Except.error.inj refused]
        · cases refused
      obtain ⟨descriptor, isThere, named⟩ :=
        TypeTree.exists_path_of_insertAll_fault _ _ fault isFault
      have declared : descriptor ∈ entity.descriptors :=
        (TypeTree.byDepth_perm entity.descriptors).mem_iff.mp isThere
      obtain ⟨field, isField, rfl⟩ := List.mem_map.mp declared
      rw [← Except.error.inj fails]
      exact ⟨rfl, field, isField, by simpa using named⟩

end Entity

namespace Interface

/-! ## One interface -/

/-- The members that are kept are those of the entities with a declaration, in order. -/
theorem keptMembers_declare (entities : List Entity) :
    List.Forall₂ Entity.DeclaredBy (entities.filter Entity.compiles) (keptMembers entities) := by
  induction entities with
  | nil => exact .nil
  | cons entity rest inductionHypothesis =>
      rw [keptMembers, List.filterMap_cons, Entity.member?]
      cases compiled : entity.declaration with
      | ok declaration =>
          rw [List.filter_cons_of_pos (Entity.compiles_of_ok compiled)]
          exact .cons ⟨declaration, compiled, rfl⟩ inductionHypothesis
      | error failure =>
          rw [List.filter_cons_of_neg (by simp [Entity.compiles_of_error compiled])]
          exact inductionHypothesis

/-- The failures that are reported are those of the entities without a declaration, in
order. -/
theorem failures_report (entities : List Entity) :
    List.Forall₂ Entity.ReportedBy (entities.filter fun entity => !entity.compiles)
      (failures entities) := by
  induction entities with
  | nil => exact .nil
  | cons entity rest inductionHypothesis =>
      rw [failures, List.filterMap_cons, Entity.failure?]
      cases compiled : entity.declaration with
      | ok declaration =>
          rw [List.filter_cons_of_neg (by simp [Entity.compiles_of_ok compiled])]
          exact inductionHypothesis
      | error failure =>
          obtain ⟨labelled, located⟩ := entity.located_of_declaration failure compiled
          rw [List.filter_cons_of_pos (by simp [Entity.compiles_of_error compiled])]
          exact .cons ⟨rfl, rfl, compiled, labelled, located⟩ inductionHypothesis

/-- Strict mode keeps the same members, unless there is a failure: then it ends with the
first one. -/
theorem strictMembers_eq (entities : List Entity) :
    strictMembers entities =
      match (failures entities).head? with
      | some first => .error first.failure
      | none => .ok (keptMembers entities) := by
  induction entities with
  | nil => rfl
  | cons entity rest inductionHypothesis =>
      simp only [strictMembers, keptMembers, failures, List.mapM_cons, List.filterMap_cons]
        at inductionHypothesis ⊢
      cases compiled : entity.declaration with
      | ok declaration =>
          simp only [Entity.member?, Entity.failure?, compiled, Except.map, Except.toOption]
            at inductionHypothesis ⊢
          rw [inductionHypothesis]
          cases (List.filterMap Entity.failure? rest).head? <;> rfl
      | error failure =>
          simp only [Entity.member?, Entity.failure?, compiled, Except.map]
          rfl

end Interface

/-! ## The parts that no entity decides -/

/-- Every element is mapped when each of them can be. -/
theorem isSome_mapM_of_forall
    {α β : Type}
    (function : α → Option β)
    (elements : List α)
    (mapped : ∀ element ∈ elements, (function element).isSome) :
    (elements.mapM function).isSome := by
  induction elements with
  | nil => rfl
  | cons element rest inductionHypothesis =>
      obtain ⟨first, isFirst⟩ := Option.isSome_iff_exists.mp (mapped element (by simp))
      obtain ⟨others, areOthers⟩ := Option.isSome_iff_exists.mp
        (inductionHypothesis fun other isThere => mapped other (by simp [isThere]))
      simp [isFirst, areOthers]

/-- An enum is written when the values of its members can be. -/
theorem EnumBlock.exists_text
    (name : String)
    (members : List EnumMember)
    (writable : ∀ member ∈ members, member.value.Writable) :
    ∃ block, text name members = .ok block := by
  have written : (members.mapM EnumMember.lines?).isSome := by
    apply isSome_mapM_of_forall
    intro member isThere
    simp [EnumMember.lines?, EnumValue.isSome_spelling?_iff, writable member isThere]
  obtain ⟨lines, isLines⟩ := Option.isSome_iff_exists.mp written
  exact ⟨_, by rw [text, lines?, isLines]; rfl⟩

namespace Protocol

/-- The names of the enums that a module needs, in the order of their blocks. -/
def requiredEnums : List String :=
  ["WebSocketOpCode", "EventSubscription", "RequestBatchExecutionType"]

/-- The first needed enum that the protocol lacks. -/
def missingEnum? (protocol : Protocol) : Option String :=
  requiredEnums.find? fun name => (protocol.enum? name).isNone

/-- No number that the module needs has too many digits to be written: neither a value in
a needed enum nor, where there are overloads, the complexity of a request or an event. -/
structure Writable (protocol : Protocol) (overloads : Bool) : Prop where
  values : ∀ name ∈ requiredEnums, ∀ enumSection, protocol.enum? name = some enumSection →
    ∀ member ∈ enumSection.members, member.value.Writable
  requests : overloads = true → ∀ request ∈ protocol.requests,
    request.complexity.natAbs < 10 ^ Digits.maxDecimalDigits
  events : overloads = true → ∀ event ∈ protocol.events,
    event.complexity.natAbs < 10 ^ Digits.maxDecimalDigits

/-- The block of a needed enum is written, unless the enum is missing. -/
theorem enumBlock_of_writable
    (protocol : Protocol)
    (overloads : Bool)
    (writable : protocol.Writable overloads)
    (name : String)
    (needed : name ∈ requiredEnums) :
    ((protocol.enum? name).isNone = true ∧
        protocol.enumBlock name = .error (.reported { fault := .missingEnum name })) ∨
      ((protocol.enum? name).isNone = false ∧ ∃ block, protocol.enumBlock name = .ok block) := by
  unfold enumBlock
  cases found : protocol.enum? name with
  | none => exact .inl ⟨rfl, rfl⟩
  | some enumSection =>
      obtain ⟨block, isBlock⟩ :=
        EnumBlock.exists_text name enumSection.members (writable.values name needed _ found)
      exact .inr ⟨rfl, block, by simp [isBlock, Except.mapError]⟩

/-- The blocks of the enums are written, unless one is missing: the first that is ends the
work. -/
theorem enumBlocks_of_writable
    (protocol : Protocol)
    (overloads : Bool)
    (writable : protocol.Writable overloads) :
    match protocol.missingEnum? with
    | some name => protocol.enumBlocks = .error (.reported { fault := .missingEnum name })
    | none => ∃ blocks, protocol.enumBlocks = .ok blocks := by
  have block := protocol.enumBlock_of_writable overloads writable
  unfold missingEnum? enumBlocks requiredEnums
  obtain ⟨missing, refused⟩ | ⟨hasFirst, first, isFirst⟩ :=
    block "WebSocketOpCode" (by simp [requiredEnums])
  · simp only [List.find?, missing, refused]
    rfl
  obtain ⟨missing, refused⟩ | ⟨hasSecond, second, isSecond⟩ :=
    block "EventSubscription" (by simp [requiredEnums])
  · simp only [List.find?, hasFirst, missing, isFirst, refused]
    rfl
  obtain ⟨missing, refused⟩ | ⟨hasThird, third, isThird⟩ :=
    block "RequestBatchExecutionType" (by simp [requiredEnums])
  · simp only [List.find?, hasFirst, hasSecond, missing, isFirst, isSecond, refused]
    rfl
  · simp only [List.find?, hasFirst, hasSecond, hasThird, isFirst, isSecond, isThird]
    exact ⟨_, rfl⟩

/-- The text that a module has for its overloads. -/
def overloadText (protocol : Protocol) (overloads : Bool) : Except Accident String :=
  if overloads then Overloads.text protocol else .ok ""

/-- The overloads are written. -/
theorem overloadText_of_writable
    (protocol : Protocol)
    (overloads : Bool)
    (writable : protocol.Writable overloads) :
    ∃ text, protocol.overloadText overloads = .ok text := by
  unfold overloadText
  split
  · rename_i wanted
    have requests : (protocol.requests.mapM Overloads.requestLines?).isSome := by
      apply isSome_mapM_of_forall
      intro request isThere
      simp [Overloads.requestLines?, Digits.isSome_text?_iff,
        writable.requests wanted request isThere]
    have events : (protocol.events.mapM Overloads.eventLines?).isSome := by
      apply isSome_mapM_of_forall
      intro event isThere
      simp [Overloads.eventLines?, Digits.isSome_text?_iff, writable.events wanted event isThere]
    obtain ⟨requestLines, areRequests⟩ := Option.isSome_iff_exists.mp requests
    obtain ⟨eventLines, areEvents⟩ := Option.isSome_iff_exists.mp events
    rw [Overloads.text, Overloads.lines?, areRequests, areEvents]
    exact ⟨_, rfl⟩
  · exact ⟨"", rfl⟩

/-! ## The whole module -/

/-- The members of an interface declare the entities of its kind that compile, each as its
own compilation does, in document order. -/
def MembersOf (protocol : Protocol) (kind : EntityKind) (members : String) : Prop :=
  ∃ lines, List.Forall₂ Entity.DeclaredBy
      ((protocol.entities kind).filter Entity.compiles) lines ∧
    members = Text.joinLines lines

/-- How the modes go with a protocol, given the parts of its module and the records of the
entities that are left out: events come first, then requests, then responses, each in
document order. -/
structure GeneratedInModes
    (protocol : Protocol)
    (overloads : Bool)
    (parts : ModuleParts)
    (records : List EntityFailure) :
    Prop where
  enums : protocol.enumBlocks = .ok parts.enums
  events : protocol.MembersOf .event parts.events
  requests : protocol.MembersOf .request parts.requests
  responses : protocol.MembersOf .response parts.responses
  overloadText : protocol.overloadText overloads = .ok parts.overloads
  reports : List.Forall₂ Entity.ReportedBy
    ((protocol.entities .event ++ protocol.entities .request ++
      protocol.entities .response).filter fun entity => !entity.compiles) records
  keepGoing : protocol.generate .keepGoing overloads =
    .ok { source := parts.source, failures := records }
  strict : protocol.generate .strict overloads =
    match records.head? with
    | some first => .error (.reported first.failure)
    | none => .ok { source := parts.source, failures := [] }

/-- The parts of a module once its enums and overloads are written. -/
theorem moduleParts_eq
    (protocol : Protocol)
    (mode : GenerationMode)
    (overloads : Bool)
    (blocks : EnumBlocks)
    (text : String)
    (hasBlocks : protocol.enumBlocks = .ok blocks)
    (hasText : protocol.overloadText overloads = .ok text) :
    protocol.moduleParts mode overloads = do
      let events ← protocol.interfaceText mode .event
      let requests ← protocol.interfaceText mode .request
      let responses ← protocol.interfaceText mode .response
      return {
        enums := blocks
        events := events
        requests := requests
        responses := responses
        overloads := text } := by
  cases overloads with
  | false =>
      obtain rfl : "" = text := Except.ok.inj hasText
      rw [moduleParts, hasBlocks]
      rfl
  | true =>
      have isText : Overloads.text protocol = .ok text := hasText
      rw [moduleParts, hasBlocks, isText]
      rfl

/-- An interface's members are written in keep-going mode whatever fails. -/
theorem interfaceText_keepGoing (protocol : Protocol) (kind : EntityKind) :
    protocol.interfaceText .keepGoing kind =
      .ok (Text.joinLines (Interface.keptMembers (protocol.entities kind))) := rfl

/-- In strict mode they are the same, unless an entity of the kind fails. -/
theorem interfaceText_strict (protocol : Protocol) (kind : EntityKind) :
    protocol.interfaceText .strict kind =
      match (Interface.failures (protocol.entities kind)).head? with
      | some first => .error (.reported first.failure)
      | none => protocol.interfaceText .keepGoing kind := by
  rw [interfaceText_keepGoing, interfaceText, Interface.text, Interface.members,
    Interface.strictMembers_eq]
  split <;> rfl

/-- Members that are kept are the members of the interface. -/
theorem membersOf_keptMembers (protocol : Protocol) (kind : EntityKind) :
    protocol.MembersOf kind (Text.joinLines (Interface.keptMembers (protocol.entities kind))) :=
  ⟨_, Interface.keptMembers_declare _, rfl⟩

/-- Once enums and overloads are written, keep-going mode has a module, and strict mode the
same one unless an entity fails. -/
theorem generatedInModes
    (protocol : Protocol)
    (overloads : Bool)
    (blocks : EnumBlocks)
    (text : String)
    (hasBlocks : protocol.enumBlocks = .ok blocks)
    (hasText : protocol.overloadText overloads = .ok text) :
    ∃ parts records, protocol.GeneratedInModes overloads parts records := by
  have parts := fun mode => protocol.moduleParts_eq mode overloads blocks text hasBlocks hasText
  refine ⟨{
      enums := blocks
      events := _
      requests := _
      responses := _
      overloads := text },
    Interface.failures protocol.allEntities,
    { enums := hasBlocks
      events := protocol.membersOf_keptMembers .event
      requests := protocol.membersOf_keptMembers .request
      responses := protocol.membersOf_keptMembers .response
      overloadText := hasText
      reports := Interface.failures_report _
      keepGoing := ?_
      strict := ?_ }⟩
  · rw [generate, parts]
    rfl
  · rw [generate, parts]
    simp only [interfaceText_strict, allEntities, Interface.failures, List.filterMap_append,
      List.head?_append]
    cases (List.filterMap Entity.failure? (protocol.entities .event)).head? with
    | some first => rfl
    | none =>
        cases (List.filterMap Entity.failure? (protocol.entities .request)).head? with
        | some first => rfl
        | none =>
            cases (List.filterMap Entity.failure? (protocol.entities .response)).head? <;> rfl

/-- Where keep-going mode has a module, enums and overloads are written. -/
theorem written_of_generate_keepGoing
    (protocol : Protocol)
    (overloads : Bool)
    (generated : GeneratedModule)
    (succeeds : protocol.generate .keepGoing overloads = .ok generated) :
    ∃ blocks text, protocol.enumBlocks = .ok blocks ∧
      protocol.overloadText overloads = .ok text := by
  cases hasBlocks : protocol.enumBlocks with
  | error cause =>
      rw [generate, moduleParts, hasBlocks] at succeeds
      cases succeeds
  | ok blocks =>
      refine ⟨blocks, ?_⟩
      cases hasText : protocol.overloadText overloads with
      | ok text => exact ⟨text, rfl, rfl⟩
      | error accident =>
          cases overloads with
          | false => cases hasText
          | true =>
              have refused : Overloads.text protocol = .error accident := hasText
              rw [generate, moduleParts, hasBlocks] at succeeds
              simp only [interfaceText_keepGoing, refused] at succeeds
              cases succeeds

/-- Where every number can be written and no enum is missing, there is a module. -/
theorem generatedInModes_of_writable
    (protocol : Protocol)
    (overloads : Bool)
    (writable : protocol.Writable overloads)
    (complete : protocol.missingEnum? = none) :
    ∃ parts records, protocol.GeneratedInModes overloads parts records := by
  have enums := protocol.enumBlocks_of_writable overloads writable
  rw [complete] at enums
  obtain ⟨blocks, hasBlocks⟩ := enums
  obtain ⟨text, hasText⟩ := protocol.overloadText_of_writable overloads writable
  exact protocol.generatedInModes overloads blocks text hasBlocks hasText

/-- Where every number can be written: a missing enum ends the work in either mode, with a
failure of no entity.  Otherwise keep-going mode always has a module, and strict mode has the
same one exactly when nothing is left out of it. -/
theorem modes_differ_by_the_first_failure
    (protocol : Protocol)
    (overloads : Bool)
    (writable : protocol.Writable overloads) :
    match protocol.missingEnum? with
    | some name => ∀ mode, protocol.generate mode overloads =
        .error (.reported { fault := .missingEnum name, entity := none })
    | none => ∃ parts records, protocol.GeneratedInModes overloads parts records := by
  cases missing : protocol.missingEnum? with
  | some name =>
      have enums := protocol.enumBlocks_of_writable overloads writable
      rw [missing] at enums
      intro mode
      rw [generate, moduleParts, enums]
      rfl
  | none => exact protocol.generatedInModes_of_writable overloads writable missing

/-- A protocol with the needed enums, each with one member of that value. -/
def withEnumValue (value : EnumValue) : Protocol :=
  { enums := requiredEnums.map fun name =>
      { name := name, members := [{ identifier := "Only", value := value }] } }

/-- A protocol whose numbers are all one can be written. -/
theorem writable_withEnumValue_one
    (requests : List Request)
    (events : List Event)
    (simpleRequests : ∀ request ∈ requests, request.complexity = 1)
    (simpleEvents : ∀ event ∈ events, event.complexity = 1) :
    ({ withEnumValue (.int 1) with requests := requests, events := events } : Protocol).Writable
      true := by
  have short : (1 : Int).natAbs < 10 ^ Digits.maxDecimalDigits :=
    Nat.one_lt_pow (by decide) (by decide)
  constructor
  · intro name _ enumSection found member isThere number isNumber
    obtain ⟨_, _, rfl⟩ := List.mem_map.mp (List.mem_of_find?_eq_some found)
    obtain rfl := List.mem_singleton.mp isThere
    obtain rfl := EnumValue.int.inj isNumber
    exact short
  · intro _ request isThere
    rw [simpleRequests request isThere]
    exact short
  · intro _ event isThere
    rw [simpleEvents event isThere]
    exact short

/-- A protocol with a request whose response cannot be compiled, and with an event. -/
def sampleProtocol : Protocol :=
  { withEnumValue (.int 1) with
    requests := [{ name := "Get", responses := [{ name := "*", declaredType := "String" }] }]
    events := [{ name := "Done" }] }

theorem sampleProtocol_writable : sampleProtocol.Writable true :=
  writable_withEnumValue_one _ _ (by simp) (by simp)

theorem sampleProtocol_generated_in_modes :
    sampleProtocol.Writable true ∧
      ∃ parts records, sampleProtocol.GeneratedInModes true parts records :=
  ⟨sampleProtocol_writable, modes_differ_by_the_first_failure _ true sampleProtocol_writable⟩

/-- A value that cannot be written ends the work in either mode. -/
theorem generate_withEnumValue
    (value : EnumValue)
    (unwritable : ¬value.Writable)
    (mode : GenerationMode)
    (overloads : Bool) :
    (withEnumValue value).generate mode overloads = .error (.accident .badValue) := by
  have noSpelling : value.spelling? = none := by
    rw [← Option.isNone_iff_eq_none, ← Option.not_isSome, Bool.not_eq_true', Bool.eq_false_iff,
      ne_eq, EnumValue.isSome_spelling?_iff]
    exact unwritable
  have found : (withEnumValue value).enum? "WebSocketOpCode" =
      some { name := "WebSocketOpCode", members := [{ identifier := "Only", value := value }] } :=
    rfl
  have refused :
      (withEnumValue value).enumBlock "WebSocketOpCode" = .error (.accident .badValue) := by
    simp [enumBlock, found, EnumBlock.text, EnumBlock.lines?, EnumMember.lines?, noSpelling,
      Except.mapError]
  rw [generate, moduleParts, enumBlocks, refused]
  rfl

/-- The least integer with too many digits. -/
def longNumber : Int := (10 ^ Digits.maxDecimalDigits : Nat)

/-- With a value of one digit too many, keep-going mode has no module although no enum is
missing and there is no entity to fail. -/
theorem keepGoing_stops_at_a_long_number :
    (withEnumValue (.int longNumber)).missingEnum? = none ∧
      (withEnumValue (.int longNumber)).allEntities = [] ∧
      (withEnumValue (.int longNumber)).generate .keepGoing false =
        .error (.accident .badValue) := by
  refine ⟨rfl, rfl, generate_withEnumValue _ ?_ _ _⟩
  intro writable
  have bounded : longNumber.natAbs < 10 ^ Digits.maxDecimalDigits := writable longNumber rfl
  rw [longNumber, Int.natAbs_natCast] at bounded
  exact Nat.lt_irrefl _ bounded

end Protocol
end ProtocolTypes
