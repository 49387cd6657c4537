import ProtocolTypes.Proofs.Module.References
import ProtocolTypes.Proofs.TypeTree.Consistency
import ProtocolTypes.Proofs.TypeTree.Coverage

/-!
# Entities without data

The marker of a kind stands for an entity without fields and for no other: a list of fields
that has a tree leaves a property in its root, so its declaration is an object in braces and
never widened.  The interface of the requests and the overloads of `call` are written apart
from each other, and yet say of the same requests that they have no parameters.
-/

namespace ProtocolTypes

/-! ## Texts in braces -/

namespace Text

/-- Joined lines with one more at their end. -/
theorem joinLines_concat
    (lines : List String)
    (present : lines ≠ [])
    (last : String) :
    joinLines (lines ++ [last]) = joinLines lines ++ "\n" ++ last := by
  induction lines with
  | nil => exact absurd rfl present
  | cons line rest inductionHypothesis =>
      cases rest with
      | nil => simp
      | cons second rest =>
          simp only [List.cons_append, joinLines_cons_cons] at inductionHypothesis ⊢
          rw [inductionHypothesis (by simp)]
          simp only [String.append_assoc]

/-- The text starts with an opening brace on a line of its own and ends with a closing one. -/
def Braced (text : String) : Prop :=
  ∃ inner, text = "\x7b\n" ++ inner ++ "\n\x7d"

/-- A text in braces is no text that starts otherwise. -/
theorem Braced.ne
    {text other : String}
    (braced : Braced text)
    (plain : other.toList.head? ≠ some '\x7b') :
    text ≠ other := by
  rintro rfl
  obtain ⟨inner, rfl⟩ := braced
  apply plain
  have opening : "\x7b\n".toList = ['\x7b', '\n'] := rfl
  simp [opening]

end Text

namespace TypeTree

theorem memberLines_ne_nil (name : String) (note : Note) (declaration : String) :
    memberLines name note declaration ≠ [] := by
  simp [memberLines]

/-- An object with a property is written in braces. -/
theorem braced_render
    (property : String × TypeTree)
    (others : List (String × TypeTree))
    (note : Note) :
    Text.Braced (render (object (property :: others) note)) := by
  have present : renderMembers (property :: others) ≠ [] :=
    List.append_ne_nil_of_left_ne_nil (memberLines_ne_nil _ _ _) _
  refine ⟨Text.joinLines (renderMembers (property :: others)), ?_⟩
  calc
    render (object (property :: others) note) =
        Text.joinLines (("\x7b" :: renderMembers (property :: others)) ++ ["\x7d"]) := rfl
    _ = Text.joinLines ("\x7b" :: renderMembers (property :: others)) ++ "\n" ++ "\x7d" :=
        Text.joinLines_concat _ (by simp) _
    _ = "\x7b\n" ++ Text.joinLines (renderMembers (property :: others)) ++ "\n\x7d" := by
        obtain ⟨first, rest, isMembers⟩ := List.exists_cons_of_ne_nil present
        rw [isMembers, Text.joinLines_cons_cons]
        simp only [String.append_assoc]
        rfl

/-- A list of fields that has a tree leaves a property in its root. -/
theorem exists_property_of_build
    (descriptors : List FieldDescriptor)
    (present : descriptors ≠ [])
    (tree : TypeTree)
    (built : (build descriptors).result = .ok tree) :
    ∃ property others note, tree = object (property :: others) note := by
  have describes := describes_of_build descriptors tree built
  obtain ⟨descriptor, rest, isList⟩ := List.exists_cons_of_ne_nil present
  have isThere : descriptor ∈ byDepth descriptors :=
    (byDepth_perm descriptors).mem_iff.mpr (by simp [isList])
  have notWild := describes.head?_ne_element _ (describes.taken descriptor isThere).2.2
  obtain ⟨step, back, split⟩ := List.exists_cons_of_ne_nil descriptor.position_ne_nil
  rw [split, List.head?_cons] at notWild
  have isPrefix : [step] <+: descriptor.position := ⟨back, split.symm⟩
  obtain ⟨child, found⟩ := describes.exists_node isThere isPrefix
  cases step with
  | element => exact absurd rfl notWild
  | member name =>
      cases tree with
      | object properties note =>
          cases properties with
          | nil => cases found
          | cons property others => exact ⟨property, others, note, rfl⟩
      | scalar kind note | opaqueJson note | array element note => cases found

/-- A single field without a dot is the only property of its tree. -/
theorem build_singleton
    (descriptor : FieldDescriptor)
    (name : String)
    (isPath : descriptor.segments = [name])
    (named : name ≠ wildcard)
    (leaf : TypeTree)
    (resolves : descriptor.leaf = .ok leaf) :
    (build [descriptor]).result = .ok (object [(name, leaf)] .blank) := by
  rw [build, byDepth_singleton, insertAll_cons_eq_ok_iff]
  have attached : (insert descriptor emptyObject).result =
      .ok (object [(name, leaf)] .blank) := by
    simp [insert, isPath, insertAt, attach, named, resolves, emptyObject, setProperty,
      Growth.result]
  exact ⟨_, attached, rfl⟩

end TypeTree

/-! ## One entity -/

/-- An entity with fields fails under its label, or its declaration is in braces. -/
theorem Entity.fails_or_braced
    (entity : Entity)
    (present : entity.fields ≠ []) :
    (∃ failure, entity.compile.result = .error failure ∧
        failure.entity = some (entity.kind.spelling ++ " " ++ entity.name)) ∨
      ∃ declaration, entity.compile.result = .ok declaration ∧ Text.Braced declaration := by
  have notEmpty : entity.fields.isEmpty = false := List.isEmpty_eq_false_iff.mpr present
  have descriptorsPresent : entity.descriptors ≠ [] := by
    simpa [Entity.descriptors] using present
  simp only [Entity.compile, Entity.declaration, notEmpty, Bool.false_eq_true, if_false]
  cases built : entity.growth.result with
  | error fault => exact .inl ⟨_, rfl, rfl⟩
  | ok tree =>
      obtain ⟨property, others, note, rfl⟩ :=
        TypeTree.exists_property_of_build entity.descriptors descriptorsPresent tree built
      exact .inr ⟨_, rfl, TypeTree.braced_render property others note⟩

/-- No marker starts with a brace. -/
theorem EntityKind.head?_emptyMarker (kind : EntityKind) :
    kind.emptyMarker.toList.head? ≠ some '\x7b' := by
  cases kind <;> decide

/-- The marker of the kind stands for an entity without fields and for no other. -/
theorem Entity.compile_eq_marker_iff (entity : Entity) :
    entity.compile.result = .ok entity.kind.emptyMarker ↔ entity.fields = [] := by
  constructor
  · intro isMarker
    by_contra present
    rcases entity.fails_or_braced present with
      ⟨failure, fails, _⟩ | ⟨declaration, compiled, braced⟩
    · rw [fails] at isMarker
      cases isMarker
    · rw [compiled] at isMarker
      exact braced.ne entity.kind.head?_emptyMarker (Except.ok.inj isMarker)
  · intro isEmpty
    obtain ⟨kind, name, fields⟩ := entity
    obtain rfl : fields = [] := isEmpty
    rfl

/-! ## One request in two texts -/

namespace Overloads

/-- The overload of a request of that name with that data parameter. -/
def callWith (name data : String) : String :=
  "call(requestType: '" ++ name ++ "', " ++ data ++ "): Promise<" ++
    access "OBSResponseTypes" name ++ ">;"

theorem call_eq_callWith (request : Request) :
    call request = callWith request.name (requestData request) := by
  unfold call callWith
  rfl

/-- Overloads of one name are told apart by their data parameter. -/
theorem callWith_inj (name left right : String) :
    callWith name left = callWith name right ↔ left = right := by
  constructor
  · intro same
    unfold callWith at same
    rwa [String.append_left_inj, String.append_left_inj, String.append_left_inj,
      String.append_right_inj] at same
  · rintro rfl
    rfl

/-- A reference to the member of a request is not the optional data. -/
theorem reference_ne_never (name : String) :
    "requestData: OBSRequestTypes['" ++ name ++ "']" ≠ "requestData?: never" := by
  intro same
  have characters := congrArg String.toList same
  simp at characters

/-- The lines of a request are its documentation block and its overload. -/
theorem exists_documentation_of_requestLines?
    (request : Request)
    (block : List String)
    (written : requestLines? request = some block) :
    ∃ documentation, block = [documentation, call request] := by
  obtain ⟨complexity, _, rfl⟩ := Option.map_eq_some_iff.mp written
  exact ⟨_, rfl⟩

theorem length_flatten_requestLines
    (requests : List Request)
    (blocks : List (List String))
    (written : requests.mapM requestLines? = some blocks) :
    blocks.flatten.length = 2 * requests.length := by
  induction requests generalizing blocks with
  | nil =>
      obtain rfl : [] = blocks := by simpa using written
      rfl
  | cons request rest inductionHypothesis =>
      simp only [List.mapM_cons, Option.pure_def, Option.bind_eq_bind, Option.bind_eq_some_iff,
        Option.some.injEq] at written
      obtain ⟨block, isBlock, others, areOthers, rfl⟩ := written
      obtain ⟨documentation, rfl⟩ := exists_documentation_of_requestLines? request block isBlock
      rw [List.flatten_cons, List.length_append, inductionHypothesis others areOthers,
        List.length_cons]
      simp only [List.length_cons, List.length_nil]
      omega

/-- The overload of a request stands behind those of the requests before it and its own
documentation block. -/
theorem exists_call_of_text
    (protocol : Protocol)
    (before after : List Request)
    (request : Request)
    (split : protocol.requests = before ++ request :: after)
    (text : String)
    (written : Overloads.text protocol = .ok text) :
    ∃ earlier later, earlier.length = 2 * before.length + 1 ∧
      text = Text.joinLines (earlier ++ call request :: later) := by
  unfold Overloads.text at written
  cases hasLines : lines? protocol with
  | none => simp [hasLines] at written
  | some lines =>
      simp only [hasLines, Except.ok.injEq] at written
      subst written
      simp only [lines?, split, List.mapM_append, List.mapM_cons, Option.pure_def,
        Option.bind_eq_bind, Option.bind_eq_some_iff, Option.some.injEq] at hasLines
      obtain ⟨_, ⟨front, isFront, _, ⟨block, isBlock, back, isBack, rfl⟩, rfl⟩, events, _, rfl⟩ :=
        hasLines
      obtain ⟨documentation, rfl⟩ := exists_documentation_of_requestLines? request block isBlock
      refine ⟨front.flatten ++ [documentation], back.flatten ++ events.flatten, ?_, ?_⟩
      · rw [List.length_append, length_flatten_requestLines before front isFront]
        rfl
      · simp

end Overloads

/-- An entity that compiles has its member between those of the entities around it. -/
theorem Interface.keptMembers_append_cons
    (before after : List Entity)
    (entity : Entity)
    (declaration : String)
    (compiles : entity.declaration = .ok declaration) :
    keptMembers (before ++ entity :: after) =
      keptMembers before ++ entity.member declaration :: keptMembers after := by
  simp [keptMembers, Entity.member?, compiles, Except.map, Except.toOption]

/-- In either mode the members that an interface has are those that are kept. -/
theorem Interface.text_eq_of_ok
    (mode : GenerationMode)
    (entities : List Entity)
    (text : String)
    (written : Interface.text mode entities = .ok text) :
    text = Text.joinLines (keptMembers entities) := by
  unfold Interface.text at written
  cases mode with
  | keepGoing => exact (Except.ok.inj written).symm
  | strict =>
      rw [members, strictMembers_eq] at written
      cases first : (failures entities).head? with
      | none =>
          rw [first] at written
          exact (Except.ok.inj written).symm
      | some failure =>
          rw [first] at written
          cases written

/-- The entity of a request's parameters. -/
def Request.parameterEntity (request : Request) : Entity :=
  ⟨.request, request.name, request.parameters⟩

/-- What is written for one request, between those before and after it, whose parameters
have that declaration. -/
structure Protocol.WritesAlike
    (protocol : Protocol)
    (before : List Request)
    (request : Request)
    (after : List Request)
    (declaration : String) :
    Prop where
  /-- The interface of the requests has a member of the declaration in its place. -/
  member : ∀ mode text, Interface.text mode (protocol.entities .request) = .ok text →
    text = Text.joinLines
      (Interface.keptMembers (before.map Request.parameterEntity) ++
        (request.name ++ ": " ++ declaration ++ ";") ::
          Interface.keptMembers (after.map Request.parameterEntity))
  /-- The overloads have one for the request in its place. -/
  overload : ∀ text, Overloads.text protocol = .ok text →
    ∃ earlier later, earlier.length = 2 * before.length + 1 ∧
      text = Text.joinLines (earlier ++ Overloads.call request :: later)
  /-- The overload takes no data exactly when the member says so. -/
  never_iff : Overloads.call request = Overloads.callWith request.name "requestData?: never" ↔
    request.name ++ ": " ++ declaration ++ ";" = request.name ++ ": never;"
  /-- Otherwise it refers to the member, which is an object in braces. -/
  braced : request.name ++ ": " ++ declaration ++ ";" ≠ request.name ++ ": never;" →
    Overloads.call request = Overloads.callWith request.name
        ("requestData: OBSRequestTypes['" ++ request.name ++ "']") ∧
      Text.Braced declaration

namespace Protocol

/-- A request whose parameters compile is written alike in both texts. -/
theorem writesAlike
    (protocol : Protocol)
    (before : List Request)
    (request : Request)
    (after : List Request)
    (declaration : String)
    (split : protocol.requests = before ++ request :: after)
    (compiles : request.parameterEntity.compile.result = .ok declaration) :
    protocol.WritesAlike before request after declaration := by
  have sameMember : request.name ++ ": " ++ declaration ++ ";" = request.name ++ ": never;" ↔
      declaration = "never" := by
    have joined : request.name ++ ": never;" = request.name ++ ": " ++ "never" ++ ";" := by
      simp only [String.append_assoc]
      rfl
    rw [joined]
    simp
  -- The marker and the optional data go with the empty list, each by its own test.
  have branches :
      (Overloads.requestData request = "requestData?: never" ∧ declaration = "never") ∨
        (Overloads.requestData request =
            "requestData: OBSRequestTypes['" ++ request.name ++ "']" ∧
          Text.Braced declaration) := by
    cases parameters : request.parameters with
    | nil =>
        left
        have isMarker := (request.parameterEntity.compile_eq_marker_iff).mpr parameters
        refine ⟨by simp [Overloads.requestData, parameters], ?_⟩
        exact Except.ok.inj (compiles.symm.trans isMarker)
    | cons field fields =>
        right
        have present : request.parameterEntity.fields ≠ [] := by
          simp [Request.parameterEntity, parameters]
        constructor
        · simp [Overloads.requestData, parameters, Overloads.access, ← String.append_assoc]
        · rcases request.parameterEntity.fails_or_braced present with
            ⟨failure, fails, _⟩ | ⟨other, compiled, braced⟩
          · cases fails.symm.trans compiles
          · rwa [Except.ok.inj (compiles.symm.trans compiled)]
  constructor
  · intro mode text written
    have inOrder : protocol.entities .request =
        before.map Request.parameterEntity ++
          request.parameterEntity :: after.map Request.parameterEntity := by
      rw [Protocol.entities, split, List.map_append]
      rfl
    rw [Interface.text_eq_of_ok mode _ text written, inOrder,
      Interface.keptMembers_append_cons _ _ _ declaration compiles]
    rfl
  · exact Overloads.exists_call_of_text protocol before after request split
  · rw [Overloads.call_eq_callWith, Overloads.callWith_inj, sameMember]
    rcases branches with ⟨noData, isMarker⟩ | ⟨refers, braced⟩
    · simp [noData, isMarker]
    · have different : declaration ≠ "never" := braced.ne (by decide)
      simp [refers, different, Overloads.reference_ne_never]
  · intro notNever
    rcases branches with ⟨_, isMarker⟩ | ⟨refers, braced⟩
    · exact absurd (sameMember.mpr isMarker) notNever
    · exact ⟨by rw [Overloads.call_eq_callWith, refers], braced⟩

/-- The marker of a kind stands for an entity without fields and for no other; an entity with
fields fails under its label or is declared in braces, and is never widened.  So wherever the
parameters of a request compile, its overload takes no data exactly when its member is the
marker, and otherwise refers to an object in braces. -/
theorem no_data_is_written_for_no_fields :
    (∀ entity : Entity,
      (entity.compile.result = .ok entity.kind.emptyMarker ↔ entity.fields = []) ∧
        (entity.fields ≠ [] →
          (∃ failure, entity.compile.result = .error failure ∧
              failure.entity = some (entity.kind.spelling ++ " " ++ entity.name)) ∨
            ∃ declaration, entity.compile.result = .ok declaration ∧
              Text.Braced declaration ∧ declaration ≠ TypeTree.jsonObject)) ∧
      ∀ (protocol : Protocol) (before : List Request) (request : Request)
        (after : List Request) (declaration : String),
        protocol.requests = before ++ request :: after →
        request.parameterEntity.compile.result = .ok declaration →
        protocol.WritesAlike before request after declaration := by
  refine ⟨?_, writesAlike⟩
  intro entity
  refine ⟨entity.compile_eq_marker_iff, ?_⟩
  intro present
  refine (entity.fails_or_braced present).imp_right ?_
  rintro ⟨declaration, compiled, braced⟩
  exact ⟨declaration, compiled, braced, braced.ne (by decide)⟩

/-- A request without parameters. -/
def versionRequest : Request := { name := "GetVersion" }

/-- A request with one parameter. -/
def renameRequest : Request :=
  { name := "Rename", parameters := [{ name := "name", declaredType := "String" }] }

/-- A protocol with both requests. -/
def pairProtocol : Protocol := { requests := [versionRequest, renameRequest] }

theorem pairProtocol_writes_both_requests_alike :
    (versionRequest.parameterEntity.compile.result = .ok "never" ∧
        pairProtocol.WritesAlike [] versionRequest [renameRequest] "never") ∧
      renameRequest.parameterEntity.compile.result = .ok "{
name: string;
}" ∧
        pairProtocol.WritesAlike [versionRequest] renameRequest []
          "{
name: string;
}" := by
  have isMarker : versionRequest.parameterEntity.compile.result = .ok "never" := rfl
  have grows : renameRequest.parameterEntity.growth.result =
      .ok (.object [("name", .scalar .string .blank)] .blank) :=
    TypeTree.build_singleton _ "name" rfl (by decide) _
      ((FieldDescriptor.leaf_eq_ok_iff _ _).mpr ⟨⟨0, .string⟩, rfl, rfl⟩)
  have isObject : renameRequest.parameterEntity.compile.result =
      .ok "{
name: string;
}" := by
    rw [Entity.compile, Entity.declaration, grows]
    rfl
  have alike := no_data_is_written_for_no_fields.2 pairProtocol
  exact ⟨⟨isMarker, alike [] versionRequest [renameRequest] _ rfl isMarker⟩,
    isObject, alike [versionRequest] renameRequest [] _ rfl isObject⟩

end Protocol
end ProtocolTypes
