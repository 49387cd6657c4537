import ProtocolTypes.Proofs.TypeTree.DeclaredText
import ProtocolTypes.TypeTree.Insert

/-!
# Refused fields

A run of insertions that is refused is refused for one of its descriptors, and the fault
names the path of that descriptor.
-/

namespace ProtocolTypes

/-- An unresolved leaf names its path. -/
theorem FieldDescriptor.path_of_leaf_fault
    (descriptor : FieldDescriptor)
    (fault : SchemaFault)
    (refused : descriptor.leaf = .error fault) :
    fault.path = some descriptor.path := by
  rw [descriptor.fault_of_leaf fault refused]
  rfl

namespace TypeTree

theorem path_of_attach_fault
    (descriptor : FieldDescriptor)
    (segment : String)
    (tree : TypeTree)
    (fault : SchemaFault)
    (refused : (attach descriptor segment tree).fault = some fault) :
    fault.path = some descriptor.path := by
  unfold attach at refused
  split at refused
  · rw [← Option.some.inj refused]
    rfl
  · split at refused
    · cases resolves : descriptor.leaf with
      | ok node => simp [resolves] at refused
      | error reason =>
          simp only [resolves, Option.some.injEq] at refused
          exact descriptor.path_of_leaf_fault fault (refused ▸ resolves)
    · rw [← Option.some.inj refused]
      rfl

/-- A refused insertion names its path, however deep it came. -/
theorem path_of_insertAt_fault
    (descriptor : FieldDescriptor)
    (segments : List String)
    (tree : TypeTree)
    (fault : SchemaFault)
    (refused : (insertAt descriptor segments tree).fault = some fault) :
    fault.path = some descriptor.path := by
  induction segments generalizing tree with
  | nil => exact path_of_attach_fault descriptor "" tree fault refused
  | cons segment rest inductionHypothesis =>
      cases rest with
      | nil => exact path_of_attach_fault descriptor segment tree fault refused
      | cons next rest =>
          unfold insertAt at refused
          split at refused
          · split at refused
            · exact inductionHypothesis _ refused
            · rw [← Option.some.inj refused]
              rfl
          · split at refused
            · split at refused <;> exact inductionHypothesis _ refused
            · rw [← Option.some.inj refused]
              rfl

/-- A refused run completes up to the descriptor that is refused, and ends with its fault. -/
theorem exists_refused_of_insertAll_fault
    (descriptors : List FieldDescriptor)
    (tree : TypeTree)
    (fault : SchemaFault)
    (refused : (insertAll descriptors tree).fault = some fault) :
    ∃ before descriptor after grown, descriptors = before ++ descriptor :: after ∧
      (insertAll before tree).result = .ok grown ∧
      (insert descriptor grown).fault = some fault := by
  induction descriptors generalizing tree with
  | nil => cases refused
  | cons first rest inductionHypothesis =>
      cases outcome : (insert first tree).fault with
      | some reason =>
          simp only [insertAll, outcome] at refused
          exact ⟨[], first, rest, tree, rfl, rfl, outcome.trans refused⟩
      | none =>
          simp only [insertAll, outcome] at refused
          obtain ⟨before, descriptor, after, grown, rfl, completes, stops⟩ :=
            inductionHypothesis _ refused
          refine ⟨first :: before, descriptor, after, grown, rfl, ?_, stops⟩
          simpa [insertAll, outcome, Growth.result] using completes

/-- A refused run names the path of one of its descriptors. -/
theorem exists_path_of_insertAll_fault
    (descriptors : List FieldDescriptor)
    (tree : TypeTree)
    (fault : SchemaFault)
    (refused : (insertAll descriptors tree).fault = some fault) :
    ∃ descriptor ∈ descriptors, fault.path = some descriptor.path := by
  obtain ⟨before, descriptor, after, grown, rfl, _, stops⟩ :=
    exists_refused_of_insertAll_fault descriptors tree fault refused
  exact ⟨descriptor, by simp, path_of_insertAt_fault descriptor _ grown fault stops⟩

end TypeTree
end ProtocolTypes
