import ProtocolTypes.TypeTree.Leaf
import Mathlib.Data.List.Basic

/-!
# Reading and writing declared types

A text is read as a declared type exactly when it is how that type is written
(`DeclaredType.parse?_eq_some_iff`).  So the leaf of a record resolves exactly when the
record names a type of the vocabulary.  A text outside of the vocabulary is blamed as a
whole, and one inside of it can be read off its tree (`TypeTree.vocabulary_is_exact`).
-/

namespace ProtocolTypes
namespace BaseType

theorem ofName?_eq_some_iff (text : List Char) (base : BaseType) :
    ofName? text = some base ↔ text = base.name.toList := by
  constructor
  · intro found
    have same := List.find?_some found
    simpa using (beq_iff_eq.mp same).symm
  · rintro rfl
    cases base <;> decide

end BaseType

namespace DeclaredType

/-- A text is unwrapped exactly when `Array<` and `>` stand around what is found. -/
theorem unwrap?_eq_some_iff (text inner : List Char) :
    unwrap? text = some inner ↔ text = "Array<".toList ++ (inner ++ ['>']) := by
  have opening : "Array<".toList = ['A', 'r', 'r', 'a', 'y', '<'] := rfl
  rw [opening]
  constructor
  · intro unwraps
    unfold unwrap? at unwraps
    split at unwraps
    · next rest =>
        split at unwraps
        · next closed =>
            simp only [Option.some.injEq] at unwraps
            obtain ⟨front, rfl⟩ := List.getLast?_eq_some_iff.mp closed
            simp only [List.dropLast_concat] at unwraps
            simp [unwraps]
        · simp at unwraps
    · simp at unwraps
  · rintro rfl
    simp [unwrap?]

@[simp] theorem toList_text_zero (base : BaseType) :
    (text ⟨0, base⟩).toList = base.name.toList := by
  simp [text]

@[simp] theorem toList_text_succ (depth : Nat) (base : BaseType) :
    (text ⟨depth + 1, base⟩).toList =
      "Array<".toList ++ ((text ⟨depth, base⟩).toList ++ ['>']) := by
  have closing : String.toList ">" = ['>'] := rfl
  have ending :
      (List.replicate depth ">").flatMap String.toList = List.replicate depth '>' := by
    induction depth with
    | zero => rfl
    | succ depth inductionHypothesis =>
        simp [List.replicate_succ, inductionHypothesis, closing]
  simp only [text, String.toList_append, String.toList_join, ending, List.append_assoc,
    ← List.replicate_succ']
  simp [List.replicate_succ, ending, closing]

/-- No base name is wrapped. -/
theorem unwrap?_name (base : BaseType) : unwrap? base.name.toList = none := by
  cases base <;> decide

/-- A text is read as a declared type exactly when that type is so written. -/
theorem parse?_eq_some_iff (text : List Char) (declared : DeclaredType) :
    parse? text = some declared ↔ text = declared.text.toList := by
  constructor
  · fun_induction parse? text generalizing declared with
    | case1 text inner unwraps inductionHypothesis =>
        intro reads
        obtain ⟨below, readsBelow, rfl⟩ := Option.map_eq_some_iff.mp reads
        rw [toList_text_succ, ← inductionHypothesis below readsBelow]
        exact (unwrap?_eq_some_iff text inner).mp unwraps
    | case2 text bare =>
        intro reads
        obtain ⟨base, isNamed, rfl⟩ := Option.map_eq_some_iff.mp reads
        rw [toList_text_zero]
        exact (BaseType.ofName?_eq_some_iff text base).mp isNamed
  · rintro rfl
    obtain ⟨depth, base⟩ := declared
    induction depth with
    | zero =>
        rw [parse?]
        split
        · next inner unwraps =>
            rw [toList_text_zero, unwrap?_name] at unwraps
            cases unwraps
        · rw [(BaseType.ofName?_eq_some_iff _ base).mpr (toList_text_zero base)]
          rfl
    | succ depth inductionHypothesis =>
        have unwraps := (unwrap?_eq_some_iff _ _).mpr (toList_text_succ depth base)
        rw [parse?]
        split
        · next inner unwrapsTo =>
            rw [unwraps, Option.some.injEq] at unwrapsTo
            rw [← unwrapsTo, inductionHypothesis]
            rfl
        · next bare =>
            rw [unwraps] at bare
            cases bare

/-- Different declared types are written differently. -/
theorem text_injective : Function.Injective text := by
  intro left right equal
  have readsLeft := (parse?_eq_some_iff _ left).mpr rfl
  have readsRight := (parse?_eq_some_iff _ right).mpr rfl
  rw [equal, readsRight] at readsLeft
  exact (Option.some.inj readsLeft).symm

end DeclaredType

namespace TypeTree

/-- The declared type that a tree has the shape of; the properties of an object do not
count. -/
def declaredType : TypeTree → DeclaredType
  | scalar .boolean _ => ⟨0, .boolean⟩
  | scalar .string _ => ⟨0, .string⟩
  | scalar .number _ => ⟨0, .number⟩
  | object _ _ => ⟨0, .object⟩
  | opaqueJson _ => ⟨0, .any⟩
  | array element _ => { element.declaredType with depth := element.declaredType.depth + 1 }

/-- A declared type can be read off its tree. -/
theorem declaredType_tree (declared : DeclaredType) :
    declared.tree.declaredType = declared := by
  obtain ⟨depth, base⟩ := declared
  induction depth with
  | zero => cases base <;> rfl
  | succ depth inductionHypothesis =>
      have element : (DeclaredType.wrap depth base.tree).declaredType = ⟨depth, base⟩ :=
        inductionHypothesis
      rw [DeclaredType.tree, DeclaredType.wrap, declaredType, element]

/-- A text resolves to a tree exactly when it spells a declared type with that tree. -/
theorem ofDeclaredType_eq_ok_iff
    (text : String)
    (path : Option String)
    (tree : TypeTree) :
    ofDeclaredType text path = .ok tree ↔
      ∃ declared : DeclaredType, text = declared.text ∧ tree = declared.tree := by
  unfold ofDeclaredType
  constructor
  · intro resolves
    split at resolves
    · next declared reads =>
        refine ⟨declared, ?_, (Except.ok.inj resolves).symm⟩
        exact String.toList_injective ((DeclaredType.parse?_eq_some_iff _ declared).mp reads)
    · cases resolves
  · rintro ⟨declared, rfl, rfl⟩
    rw [(DeclaredType.parse?_eq_some_iff _ declared).mpr rfl]

/-- What does not resolve is blamed as it was given. -/
theorem fault_of_ofDeclaredType
    (text : String)
    (path : Option String)
    (fault : SchemaFault)
    (refused : ofDeclaredType text path = .error fault) :
    fault = .unknownType text path := by
  unfold ofDeclaredType at refused
  split at refused
  · cases refused
  · exact (Except.error.inj refused).symm

/-- A text resolves exactly when it is a base name within as many `Array<` as `>`, to as
many bare arrays around the tree of that name, from which the text can be read back.  Any
other text is refused, and blamed as a whole however deep the mistake in it is. -/
theorem vocabulary_is_exact (text : String) (path : Option String) :
    (∀ tree, ofDeclaredType text path = .ok tree ↔
      ∃ depth base, text = (DeclaredType.mk depth base).text ∧
        tree = DeclaredType.wrap depth base.tree) ∧
      (∀ tree, ofDeclaredType text path = .ok tree → tree.declaredType.text = text) ∧
      (∀ fault, ofDeclaredType text path = .error fault ↔
        (∀ depth base, text ≠ (DeclaredType.mk depth base).text) ∧
          fault = .unknownType text path) := by
  refine ⟨?_, ?_, ?_⟩
  · intro tree
    rw [ofDeclaredType_eq_ok_iff]
    constructor
    · rintro ⟨⟨depth, base⟩, spelled, isTree⟩
      exact ⟨depth, base, spelled, isTree⟩
    · rintro ⟨depth, base, spelled, isTree⟩
      exact ⟨⟨depth, base⟩, spelled, isTree⟩
  · intro tree resolves
    obtain ⟨declared, spelled, rfl⟩ := (ofDeclaredType_eq_ok_iff text path tree).mp resolves
    rw [declaredType_tree, spelled]
  · intro fault
    constructor
    · intro refused
      refine ⟨?_, fault_of_ofDeclaredType text path fault refused⟩
      intro depth base spelled
      rw [(ofDeclaredType_eq_ok_iff text path _).mpr ⟨⟨depth, base⟩, spelled, rfl⟩] at refused
      cases refused
    · rintro ⟨unspelled, rfl⟩
      cases outcome : ofDeclaredType text path with
      | ok tree =>
          obtain ⟨⟨depth, base⟩, spelled, _⟩ :=
            (ofDeclaredType_eq_ok_iff text path tree).mp outcome
          exact absurd spelled (unspelled depth base)
      | error fault => rw [fault_of_ofDeclaredType text path fault outcome]

theorem nested_numbers_are_read_back :
    ofDeclaredType "Array<Array<Number>>" none =
        .ok (array (array (scalar .number .blank) .blank) .blank) ∧
      (array (array (scalar .number .blank) .blank) .blank).declaredType.text =
        "Array<Array<Number>>" := by
  have exact := vocabulary_is_exact "Array<Array<Number>>" none
  have resolves := (exact.1 _).mpr ⟨2, .number, rfl, rfl⟩
  exact ⟨resolves, exact.2.1 _ resolves⟩

/-- A mistake inside of an array is blamed together with the array. -/
example :
    ofDeclaredType "Array<Array<Text>>" (some "a.b") =
      .error (.unknownType "Array<Array<Text>>" (some "a.b")) := by
  cbv

end TypeTree

namespace FieldDescriptor

/-- The leaf of a record is the tree of the declared type that it names. -/
theorem leaf_eq_ok_iff (descriptor : FieldDescriptor) (leaf : TypeTree) :
    descriptor.leaf = .ok leaf ↔
      ∃ declared : DeclaredType, descriptor.declaredType = declared.text ∧
        declared.tree.withNote descriptor.leafNote = leaf := by
  unfold FieldDescriptor.leaf
  constructor
  · intro resolves
    cases outcome : TypeTree.ofDeclaredType descriptor.declaredType (some descriptor.path) with
    | ok tree =>
        obtain ⟨declared, spelled, rfl⟩ :=
          (TypeTree.ofDeclaredType_eq_ok_iff _ _ tree).mp outcome
        exact ⟨declared, spelled, by simpa [outcome, Except.map] using resolves⟩
    | error fault => simp [outcome, Except.map] at resolves
  · rintro ⟨declared, spelled, rfl⟩
    rw [(TypeTree.ofDeclaredType_eq_ok_iff _ _ declared.tree).mpr ⟨declared, spelled, rfl⟩]
    rfl

/-- A leaf that does not resolve is refused for its declared type. -/
theorem fault_of_leaf
    (descriptor : FieldDescriptor)
    (fault : SchemaFault)
    (refused : descriptor.leaf = .error fault) :
    fault = .unknownType descriptor.declaredType (some descriptor.path) := by
  unfold FieldDescriptor.leaf at refused
  cases outcome : TypeTree.ofDeclaredType descriptor.declaredType (some descriptor.path) with
  | ok tree => simp [outcome, Except.map] at refused
  | error reason =>
      simp only [outcome, Except.map, Except.error.injEq] at refused
      rw [← refused, TypeTree.fault_of_ofDeclaredType _ _ reason outcome]

end FieldDescriptor
end ProtocolTypes
