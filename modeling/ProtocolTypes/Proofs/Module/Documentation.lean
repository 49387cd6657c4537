import ProtocolTypes.Proofs.Module.Declarations
import ProtocolTypes.Proofs.TypeTree.Sealed

/-!
# Documentation and the declared types

What a document says about its fields ends up in comments.  As long as none of these texts
closes a comment, the declared types are the same whatever the texts are
(`same_code_whatever_is_documented`).  Texts are not escaped: what follows the end of a
comment in a description is code (`closing_description_declares_a_member`).
-/

namespace ProtocolTypes

namespace FieldRecord

/-- The record without the texts that a declaration documents. -/
def undocumented (field : FieldRecord) : FieldRecord :=
  { field with description := "", restrictions := none, optionalBehavior := none }

theorem descriptor_undocumented (kind : EntityKind) (field : FieldRecord) :
    field.undocumented.descriptor kind = (field.descriptor kind).undocumented := by
  cases kind <;> rfl

end FieldRecord

namespace Entity

/-- The entity without the texts of its fields. -/
def undocumented (entity : Entity) : Entity :=
  { entity with fields := entity.fields.map FieldRecord.undocumented }

/-- The texts that the declaration documents: descriptions, and for a request what is said
about restrictions and defaults. -/
def documentedTexts (entity : Entity) : List String :=
  entity.descriptors.flatMap FieldDescriptor.texts

/-- The texts of an entity change its type tree in nothing but the documentation. -/
theorem mirrors_growth (entity : Entity) :
    entity.undocumented.growth.Mirrors entity.growth := by
  have sameDescriptors : entity.undocumented.descriptors =
      entity.descriptors.map FieldDescriptor.undocumented := by
    simp [descriptors, undocumented, FieldRecord.descriptor_undocumented]
  rw [growth, sameDescriptors]
  exact TypeTree.mirrors_build entity.descriptors

/-- The text of a type tree whose documentation closes no comment holds the code that the
entity has without its texts. -/
theorem codeOf_growth
    (entity : Entity)
    (noSlash : ∀ field ∈ entity.fields, '/' ∉ field.name.toList)
    (staysOpen : ∀ text ∈ entity.documentedTexts, ¬ Text.ClosesComment text.toList) :
    Text.CodeOf entity.growth.tree.render.toList
      entity.undocumented.growth.tree.render.toList := by
  rw [entity.mirrors_growth.tree]
  apply TypeTree.codeOf_render
  apply TypeTree.sealed_build
  intro descriptor isThere
  obtain ⟨field, isField, rfl⟩ := List.mem_map.mp isThere
  refine ⟨?_, fun text isText => staysOpen text (List.mem_flatMap.mpr ⟨_, isThere, isText⟩)⟩
  rw [FieldRecord.path_descriptor]
  exact noSlash field isField

/-- Field lists that agree but for their texts compile to the same code, up to comments and
blank lines, when no text closes a comment. -/
theorem same_code_whatever_is_documented
    (kind : EntityKind)
    (name : String)
    (left right : List FieldRecord)
    (alike : left.map FieldRecord.undocumented = right.map FieldRecord.undocumented)
    (noSlash : ∀ field ∈ left, '/' ∉ field.name.toList)
    (leftOpen : ∀ text ∈ (Entity.mk kind name left).documentedTexts,
      ¬ Text.ClosesComment text.toList)
    (rightOpen : ∀ text ∈ (Entity.mk kind name right).documentedTexts,
      ¬ Text.ClosesComment text.toList)
    (declaration : String)
    (compiles : (Entity.mk kind name left).declaration = .ok declaration) :
    ∃ other, (Entity.mk kind name right).declaration = .ok other ∧
      Text.codeLines declaration = Text.codeLines other := by
  have noSlashRight : ∀ field ∈ right, '/' ∉ field.name.toList := by
    intro field isField
    have isAlike : field.undocumented ∈ left.map FieldRecord.undocumented :=
      alike ▸ List.mem_map_of_mem isField
    obtain ⟨twin, isTwin, sameBare⟩ := List.mem_map.mp isAlike
    have sameName : twin.undocumented.name = field.undocumented.name :=
      congrArg FieldRecord.name sameBare
    change twin.name = field.name at sameName
    exact sameName ▸ noSlash twin isTwin
  have sameLength : left.length = right.length := by
    simpa using congrArg List.length alike
  cases left with
  | nil =>
      obtain rfl := List.eq_nil_of_length_eq_zero sameLength.symm
      exact ⟨declaration, compiles, rfl⟩
  | cons field others =>
      have nonempty : right ≠ [] := by
        rintro rfl
        simp at sameLength
      have bare : (Entity.mk kind name (field :: others)).undocumented =
          (Entity.mk kind name right).undocumented := by
        simp only [undocumented, alike]
      obtain ⟨leftGrows, rfl⟩ := (declaration_eq_ok_iff _ (by simp) declaration).mp compiles
      have leftMirror := (Entity.mk kind name (field :: others)).mirrors_growth.fault
      have rightMirror := (Entity.mk kind name right).mirrors_growth.fault
      rw [bare, rightMirror, leftGrows] at leftMirror
      have rightGrows : (Entity.mk kind name right).growth.fault = none := by
        simpa using leftMirror
      refine ⟨_, (declaration_eq_ok_iff _ nonempty _).mpr ⟨rightGrows, rfl⟩, ?_⟩
      have leftCode := codeOf_growth _ noSlash leftOpen
      rw [bare] at leftCode
      exact leftCode.codeLines_eq (codeOf_growth _ noSlashRight rightOpen)

/-- A string field with that path and description. -/
def describedField (path description : String) : FieldRecord :=
  { name := path, declaredType := "String", description := description }

theorem nested_fields_have_the_same_code :
    ∃ other,
      (Entity.mk .event "Moved"
        [describedField "a.b" "left * / right\n*", describedField "c" "/* open"]).declaration =
          .ok other ∧
      Text.codeLines "\x7b\nc: string;\na: \x7b\nb: string;\n\x7d;\n\x7d" =
        Text.codeLines other := by
  have sorted : TypeTree.byDepth
        (Entity.mk .event "Moved" [describedField "a.b" "", describedField "c" ""]).descriptors =
      [(describedField "c" "").descriptor .event, (describedField "a.b" "").descriptor .event] := by
    simp [TypeTree.byDepth, descriptors, List.mergeSort, FieldDescriptor.depth,
      FieldRecord.descriptor, describedField]
  exact same_code_whatever_is_documented .event "Moved"
    [describedField "a.b" "", describedField "c" ""]
    [describedField "a.b" "left * / right\n*", describedField "c" "/* open"]
    rfl (by decide) (by decide) (by decide) _
    (declaration_eq_ok_of_byDepth _ (by simp) sorted (by decide +kernel) (by decide +kernel))

/-- A description that closes its comment goes on as code, here as one more member. -/
theorem closing_description_declares_a_member :
    [describedField "a" ""].map FieldRecord.undocumented =
        [describedField "a" "*/b:any;/*"].map FieldRecord.undocumented ∧
      ∃ left right,
        (Entity.mk .event "Moved" [describedField "a" ""]).declaration = .ok left ∧
        (Entity.mk .event "Moved" [describedField "a" "*/b:any;/*"]).declaration =
          .ok right ∧
        Text.codeLines left ≠ Text.codeLines right := by
  have alone (field : FieldRecord) :
      TypeTree.byDepth (Entity.mk .event "Moved" [field]).descriptors =
        [field.descriptor .event] :=
    TypeTree.byDepth_singleton _
  refine ⟨rfl, "\x7b\na: string;\n\x7d",
    "\x7b\n/**\n * */b:any;/*\n */\na: string;\n\x7d",
    declaration_eq_ok_of_byDepth _ (by simp) (alone _) (by decide +kernel) (by decide +kernel),
    declaration_eq_ok_of_byDepth _ (by simp) (alone _) (by decide +kernel) (by decide +kernel),
    ?_⟩
  decide

end Entity
end ProtocolTypes
