import Mathlib.Data.List.Forall2
import Mathlib.Logic.Relation
import ProtocolTypes.Proofs.Protocol.Extras
import ProtocolTypes.Proofs.Validation.Edit
import ProtocolTypes.Protocol.Extract

/-!
# Revised documents

A document may be revised by entries that no field goes by, and by fields that stand under
their names and no longer under their keys, in any of its records.  It is taken for the same
protocol up to extra entries, so it has the same module.
-/

namespace ProtocolTypes

open scoped Relator

namespace EnumMember

/-- One edit of an enum member. -/
def Edited : Value → Value → Prop := Record.Edited fields fun _ _ _ => False

theorem fields_separate : FieldKey.Separate fields := by decide

/-- An edit leaves an enum member the same up to extra entries. -/
theorem ignores_edited : rule.Ignores (InvImage Eq withoutExtras) Edited := by
  refine Record.ignores_edited fun before after edited => ?_
  have sameRecord : (Eq ⇒ Eq ⇒ Eq ⇒ Eq ⇒ Eq ⇒ Eq ⇒ (fun _ _ => True) ⇒
      InvImage Eq withoutExtras) mk mk := by
    rintro description _ rfl identifier _ rfl rpcVersion _ rfl deprecated _ rfl
      initialVersion _ rfl value _ rfl extras others -
    rfl
  refine ((((((Checked.Alike.map sameRecord ?_).seq ?_).seq ?_).seq ?_).seq ?_).seq ?_).seq
    edited.extras
  all_goals
    exact edited.whole fields_separate (by decide) fun _ _ => id

end EnumMember

namespace EnumSection

/-- What may be edited within an enum section: one of its members. -/
def PartEdited (field : FieldKey) (before after : Value) : Prop :=
  field = membersKey ∧ Rule.ItemChanged EnumMember.Edited before after

/-- One edit of an enum section. -/
def Edited : Value → Value → Prop := Record.Edited fields PartEdited

theorem fields_separate : FieldKey.Separate fields := by decide

@[inherit_doc EnumMember.ignores_edited]
theorem ignores_edited : rule.Ignores (InvImage Eq withoutExtras) Edited := by
  refine Record.ignores_edited fun before after edited => ?_
  have sameRecord : (Eq ⇒ InvImage Eq (List.map EnumMember.withoutExtras) ⇒
      (fun _ _ => True) ⇒ InvImage Eq withoutExtras) mk mk := by
    rintro name _ rfl members others same extras otherExtras -
    exact congrArg (mk name · []) same
  refine ((Checked.Alike.map sameRecord ?_).seq ?_).seq edited.extras
  · exact edited.whole fields_separate (by decide) fun _ _ part => absurd part.1 (by decide)
  · exact edited.items fields_separate (by decide) EnumMember.ignores_edited
      (fun _ _ part => part.2) []

end EnumSection

namespace FieldRecord

/-- One edit of a field record. -/
def Edited : Value → Value → Prop := Record.Edited fields fun _ _ _ => False

theorem fields_separate : FieldKey.Separate fields := by decide

@[inherit_doc EnumMember.ignores_edited]
theorem ignores_edited : rule.Ignores (InvImage Eq withoutExtras) Edited := by
  refine Record.ignores_edited fun before after edited => ?_
  have sameRecord : (Eq ⇒ Eq ⇒ Eq ⇒ Eq ⇒ Eq ⇒ Eq ⇒ (fun _ _ => True) ⇒
      InvImage Eq withoutExtras) mk mk := by
    rintro name _ rfl type _ rfl description _ rfl restrictions _ rfl optional _ rfl behavior _ rfl
      extras others -
    rfl
  refine ((((((Checked.Alike.map sameRecord ?_).seq ?_).seq ?_).seq ?_).seq ?_).seq ?_).seq
    edited.extras
  all_goals
    exact edited.whole fields_separate (by decide) fun _ _ => id

end FieldRecord

namespace Request

/-- What may be edited within a request: one of the fields of its parameters or of its
response. -/
def PartEdited (field : FieldKey) (before after : Value) : Prop :=
  (field = parametersKey ∨ field = responsesKey) ∧
    Rule.ItemChanged FieldRecord.Edited before after

/-- One edit of a request. -/
def Edited : Value → Value → Prop := Record.Edited fields PartEdited

theorem fields_separate : FieldKey.Separate fields := by decide

/-- An edit leaves a request the same up to extra entries. -/
theorem ignores_edited : rule.Ignores (InvImage Eq withoutExtras) Edited := by
  refine Record.ignores_edited fun before after edited => ?_
  have sameRecord : (Eq ⇒ Eq ⇒ Eq ⇒ Eq ⇒ Eq ⇒ Eq ⇒ Eq ⇒
      InvImage Eq (List.map FieldRecord.withoutExtras) ⇒
      InvImage Eq (List.map FieldRecord.withoutExtras) ⇒
      (fun _ _ => True) ⇒ InvImage Eq withoutExtras) mk mk := by
    rintro description _ rfl name _ rfl complexity _ rfl rpcVersion _ rfl deprecated _ rfl
      initialVersion _ rfl category _ rfl parameters otherParameters sameParameters
      responses otherResponses sameResponses extras others -
    exact congrArg₂ (mk description name complexity rpcVersion deprecated initialVersion
      category · · []) sameParameters sameResponses
  refine (((((((((Checked.Alike.map sameRecord ?_).seq ?_).seq ?_).seq ?_).seq ?_).seq ?_).seq
    ?_).seq ?parameters).seq ?responses).seq edited.extras
  case parameters =>
    exact edited.items fields_separate (by decide) FieldRecord.ignores_edited
      (fun _ _ part => part.2) []
  case responses =>
    exact edited.items fields_separate (by decide) FieldRecord.ignores_edited
      (fun _ _ part => part.2) []
  all_goals
    exact edited.whole fields_separate (by decide) fun _ _ part => absurd part.1 (by decide)

end Request

namespace Event

/-- What may be edited within an event: one of the fields of its payload. -/
def PartEdited (field : FieldKey) (before after : Value) : Prop :=
  field = payloadKey ∧ Rule.ItemChanged FieldRecord.Edited before after

/-- One edit of an event. -/
def Edited : Value → Value → Prop := Record.Edited fields PartEdited

theorem fields_separate : FieldKey.Separate fields := by decide

/-- An edit leaves an event the same up to extra entries. -/
theorem ignores_edited : rule.Ignores (InvImage Eq withoutExtras) Edited := by
  refine Record.ignores_edited fun before after edited => ?_
  have sameRecord : (Eq ⇒ Eq ⇒ Eq ⇒ Eq ⇒ Eq ⇒ Eq ⇒ Eq ⇒ Eq ⇒
      InvImage Eq (List.map FieldRecord.withoutExtras) ⇒
      (fun _ _ => True) ⇒ InvImage Eq withoutExtras) mk mk := by
    rintro description _ rfl name _ rfl subscription _ rfl complexity _ rfl rpcVersion _ rfl
      deprecated _ rfl initialVersion _ rfl category _ rfl payload otherPayload samePayload
      extras others -
    exact congrArg (mk description name subscription complexity rpcVersion deprecated
      initialVersion category · []) samePayload
  refine (((((((((Checked.Alike.map sameRecord ?_).seq ?_).seq ?_).seq ?_).seq ?_).seq ?_).seq
    ?_).seq ?_).seq ?payload).seq edited.extras
  case payload =>
    exact edited.items fields_separate (by decide) FieldRecord.ignores_edited
      (fun _ _ part => part.2) []
  all_goals
    exact edited.whole fields_separate (by decide) fun _ _ part => absurd part.1 (by decide)

end Event

namespace Protocol

/-- What may be edited within a document: one of its enum sections, requests or events. -/
def PartEdited (field : FieldKey) (before after : Value) : Prop :=
  field = enumsKey ∧ Rule.ItemChanged EnumSection.Edited before after ∨
    field = requestsKey ∧ Rule.ItemChanged Request.Edited before after ∨
    field = eventsKey ∧ Rule.ItemChanged Event.Edited before after

/-- One edit of a protocol document, at any of its levels. -/
def Edited : Value → Value → Prop := Record.Edited fields PartEdited

/-- Any number of edits, one after the other. -/
def Revised : Value → Value → Prop := Relation.ReflTransGen Edited

theorem fields_separate : FieldKey.Separate fields := by decide

/-- An edit leaves a protocol the same up to extra entries. -/
theorem ignores_edited : rule.Ignores (InvImage Eq withoutExtras) Edited := by
  refine Record.ignores_edited fun before after edited => ?_
  have sameRecord : (InvImage Eq (List.map EnumSection.withoutExtras) ⇒
      InvImage Eq (List.map Request.withoutExtras) ⇒
      InvImage Eq (List.map Event.withoutExtras) ⇒
      (fun _ _ => True) ⇒ InvImage Eq withoutExtras) mk mk := by
    rintro enums otherEnums sameEnums requests otherRequests sameRequests
      events otherEvents sameEvents extras others -
    rw [InvImage] at sameEnums sameRequests sameEvents ⊢
    rw [withoutExtras, withoutExtras, sameEnums, sameRequests, sameEvents]
  refine (((Checked.Alike.map sameRecord ?enums).seq ?requests).seq ?events).seq edited.extras
  case enums =>
    refine edited.items fields_separate (by decide) EnumSection.ignores_edited ?_ []
    rintro old new (part | part | part)
    · exact part.2
    · exact absurd part.1 (by decide)
    · exact absurd part.1 (by decide)
  case requests =>
    refine edited.items fields_separate (by decide) Request.ignores_edited ?_ []
    rintro old new (part | part | part)
    · exact absurd part.1 (by decide)
    · exact part.2
    · exact absurd part.1 (by decide)
  case events =>
    refine edited.items fields_separate (by decide) Event.ignores_edited ?_ []
    rintro old new (part | part | part)
    · exact absurd part.1 (by decide)
    · exact absurd part.1 (by decide)
    · exact part.2

/-- Protocols that differ in extra entries alone have the same module, also when requests
are corrected. -/
theorem generate_corrected_eq
    {first second : Protocol}
    (same : first.withoutExtras = second.withoutExtras)
    (mode : GenerationMode)
    (overloads : Bool) :
    first.corrected.generate mode overloads = second.corrected.generate mode overloads := by
  rw [← generate_withoutExtras, ← corrected_withoutExtras, same, corrected_withoutExtras,
    generate_withoutExtras]

/-- One edit of a document that is taken for a protocol leaves it one, with the same module. -/
theorem generate_of_edited
    {before after : Value}
    (edited : Edited before after)
    {extraction : Extraction}
    (accepted : ofValue before = .ok extraction) :
    ∃ later, ofValue after = .ok later ∧
      ∀ mode overloads,
        later.protocol.generate mode overloads = extraction.protocol.generate mode overloads := by
  have alike := ignores_edited before after edited
  rw [ofValue] at accepted ⊢
  generalize rule before = first at alike accepted
  generalize rule after = second at alike ⊢
  cases alike with
  | invalid => cases accepted
  | valid same =>
      obtain rfl := Except.ok.inj accepted
      exact ⟨_, rfl, generate_corrected_eq same.symm⟩

/-- A document that is revised by unknown entries and by fields under their names is taken
for a protocol if it was before, and has the same module in either mode, or fails alike. -/
theorem revised_documents_generate_the_same
    (before after : Value)
    (revised : Revised before after)
    (extraction : Extraction)
    (accepted : ofValue before = .ok extraction) :
    ∃ later, ofValue after = .ok later ∧
      ∀ mode overloads,
        later.protocol.generate mode overloads = extraction.protocol.generate mode overloads := by
  induction revised with
  | refl => exact ⟨extraction, accepted, fun _ _ => rfl⟩
  | tail _ edited inductionHypothesis =>
      obtain ⟨middle, isMiddle, same⟩ := inductionHypothesis
      obtain ⟨later, isLater, sameAgain⟩ := generate_of_edited edited isMiddle
      exact ⟨later, isLater, fun mode overloads =>
        (sameAgain mode overloads).trans (same mode overloads)⟩

/-- A document with the enums that a module needs, one request and more entries. -/
def sampleDocument (request : Value) (more : List (Value × Value)) : Value :=
  .map
    ([ (.str "enums",
        .list (["WebSocketOpCode", "EventSubscription", "RequestBatchExecutionType"].map
          fun name => .map [(.str "enumType", .str name)])),
      (.str "requests", .list [request]) ] ++ more)

/-- A request whose name stands under that key, with one field. -/
def sampleRequest (nameKey : String) (field : Value) : Value :=
  .map [(.str nameKey, .str "GetGroupItemList"), (.str "requestFields", .list [field])]

/-- A field record with more entries. -/
def sampleField (more : List (Value × Value)) : Value :=
  .map ([(.str "valueName", .str "groupName"), (.str "valueType", .str "String")] ++ more)

/-- What the document is taken for before it is revised. -/
def sampleExtraction : Extraction where
  protocol :=
    { enums := [⟨"WebSocketOpCode", [], []⟩, ⟨"EventSubscription", [], []⟩,
        ⟨"RequestBatchExecutionType", [], []⟩]
      requests :=
        [ { name := "GetGroupSceneItemList"
            parameters := [{ name := "groupName", declaredType := "String" }] } ] }
  records := [.correcting "GetGroupItemList" "GetGroupSceneItemList"]

theorem sampleDocument_revised :
    Revised (sampleDocument (sampleRequest "requestType" (sampleField [])) [])
      (sampleDocument (sampleRequest "request_type" (sampleField [(.str "valueUnit", .null)]))
        [(.str "generatedBy", .list [.null])]) := by
  have unit : FieldRecord.Edited (sampleField []) (sampleField [(.str "valueUnit", .null)]) :=
    .map (.added (by decide) (.between [_, _] []))
  have unitWithin : Request.Edited (sampleRequest "requestType" (sampleField []))
      (sampleRequest "requestType" (sampleField [(.str "valueUnit", .null)])) :=
    .map (.within [_] [] (by decide) (.inl rfl) ⟨.inl rfl, .item [] [] unit⟩)
  have isField : Request.nameKey ∈ Request.fields := by decide
  have only (field : Value) (key : String) (goesBy : Request.nameKey.GoesBy key) :
      Value.entry? key [(.str "requestFields", field)] = none := by
    rcases goesBy with rfl | rfl <;> rfl
  have respelled (field : Value) : Request.Edited (sampleRequest "requestType" field)
      (sampleRequest "request_type" field) :=
    .map (.respelled isField (only _) (.between [] [_]) (.between [] [_]))
  have within {before after : Value} (edited : Request.Edited before after) :
      Edited (sampleDocument before []) (sampleDocument after []) :=
    .map (.within [_] [] (by decide) (.inl rfl) (.inr (.inl ⟨rfl, .item [] [] edited⟩)))
  have added (request : Value) : Edited (sampleDocument request [])
      (sampleDocument request [(.str "generatedBy", .list [.null])]) :=
    .map (.added (by decide) (.between [_, _] []))
  exact ((Relation.ReflTransGen.single (within unitWithin)).tail (within (respelled _))).tail
    (added _)

theorem sampleDocument_generates_the_same_when_revised :
    ofValue (sampleDocument (sampleRequest "requestType" (sampleField [])) []) =
        .ok sampleExtraction ∧
      ∃ later,
        ofValue (sampleDocument
          (sampleRequest "request_type" (sampleField [(.str "valueUnit", .null)]))
          [(.str "generatedBy", .list [.null])]) = .ok later ∧
        ∀ mode overloads, later.protocol.generate mode overloads =
          sampleExtraction.protocol.generate mode overloads :=
  have accepted : ofValue (sampleDocument (sampleRequest "requestType" (sampleField [])) []) =
      .ok sampleExtraction := rfl
  ⟨accepted,
    revised_documents_generate_the_same _ _ sampleDocument_revised sampleExtraction accepted⟩

end Protocol
end ProtocolTypes
