import ProtocolTypes.Proofs.TypeTree.Consistency
import ProtocolTypes.Proofs.TypeTree.Coverage
import ProtocolTypes.Proofs.TypeTree.Reordering
import ProtocolTypes.TypeTree.Render

/-!
# The order of the fields

Descriptors of distinct paths can be inserted in any parents-first order: all of these are
refused or all complete, and the trees differ only in the order of properties.  Where every
named prefix of a path is declared, the order of the descriptors below each parent decides
that order too, so that the rendered text is the same
(`insertion_order_matters_only_among_siblings`).
-/

namespace ProtocolTypes

open FieldDescriptor TypeTree

namespace FieldDescriptor

/-- The position of the object that the field belongs to. -/
def parent (descriptor : FieldDescriptor) : List Step :=
  descriptor.position.dropLast

/-- Every named position on a path is the path of some descriptor. -/
def PrefixesDeclared (descriptors : List FieldDescriptor) : Prop :=
  ∀ descriptor ∈ descriptors, ∀ front name,
    front ++ [.member name] <+: descriptor.position →
    ∃ other ∈ descriptors, other.position = front ++ [.member name]

/-- The descriptors below each parent come in the same order. -/
def SiblingsInOrder (left right : List FieldDescriptor) : Prop :=
  ∀ position, (left.filter fun descriptor => descriptor.parent = position) =
    right.filter fun descriptor => descriptor.parent = position

theorem PrefixesDeclared.perm
    {left right : List FieldDescriptor}
    (prefixesDeclared : PrefixesDeclared left)
    (permuted : left.Perm right) :
    PrefixesDeclared right := by
  intro descriptor isThere front name isPrefix
  obtain ⟨other, isOther, ends⟩ :=
    prefixesDeclared descriptor (permuted.mem_iff.mpr isThere) front name isPrefix
  exact ⟨other, permuted.mem_iff.mp isOther, ends⟩

/-! ## The last descriptor of a position -/

/-- Among distinct paths, the descriptor that has a position is the last to have it. -/
theorem lastAt?_eq_some_iff_of_distinct
    (descriptors : List FieldDescriptor)
    (distinct : (descriptors.map path).Nodup)
    (position : List Step)
    (descriptor : FieldDescriptor) :
    lastAt? descriptors position = some descriptor ↔
      descriptor ∈ descriptors ∧ descriptor.position = position := by
  constructor
  · exact mem_of_lastAt?
  · rintro ⟨isThere, rfl⟩
    obtain ⟨last, isLast⟩ := exists_lastAt?_of_mem isThere
    obtain ⟨lastThere, samePosition⟩ := mem_of_lastAt? isLast
    have samePath := (position_eq_iff last descriptor).mp samePosition
    rw [isLast, List.inj_on_of_nodup_map distinct lastThere isThere samePath]

theorem lastAt?_perm
    {left right : List FieldDescriptor}
    (permuted : left.Perm right)
    (distinct : (left.map path).Nodup)
    (position : List Step) :
    lastAt? left position = lastAt? right position := by
  apply Option.ext
  intro descriptor
  rw [lastAt?_eq_some_iff_of_distinct left distinct,
    lastAt?_eq_some_iff_of_distinct right ((permuted.map path).nodup_iff.mp distinct),
    permuted.mem_iff]

/-- Descriptors of one position are siblings, so their order decides which is the last. -/
theorem SiblingsInOrder.lastAt?_eq
    {left right : List FieldDescriptor}
    (inOrder : SiblingsInOrder left right)
    (position : List Step) :
    lastAt? left position = lastAt? right position := by
  have narrow (descriptors : List FieldDescriptor) :
      (descriptors.filter fun descriptor => descriptor.position = position) =
        (descriptors.filter fun descriptor => descriptor.parent = position.dropLast).filter
          fun descriptor => descriptor.position = position := by
    rw [List.filter_filter]
    apply List.filter_congr
    intro descriptor _
    by_cases same : descriptor.position = position <;> simp [parent, same]
  unfold lastAt?
  rw [narrow left, narrow right, inOrder position.dropLast]

/-! ## First appearances -/

/-- Without its last descriptor a list in parents-first order keeps its prefixes declared. -/
theorem PrefixesDeclared.of_append_singleton
    {descriptors : List FieldDescriptor}
    {descriptor : FieldDescriptor}
    (prefixesDeclared : PrefixesDeclared (descriptors ++ [descriptor]))
    (parentsFirst : ∀ earlier ∈ descriptors, ¬earlier.Extends descriptor) :
    PrefixesDeclared descriptors := by
  intro earlier isThere front name isPrefix
  obtain ⟨other, isOther, ends⟩ :=
    prefixesDeclared earlier (by simp [isThere]) front name isPrefix
  rcases List.mem_append.mp isOther with before | last
  · exact ⟨other, before, ends⟩
  · rw [List.mem_singleton.mp last] at ends
    by_cases same : descriptor.position = earlier.position
    · exact ⟨earlier, isThere, by rw [← same, ends]⟩
    · exact absurd ⟨ends ▸ isPrefix, same⟩ (parentsFirst earlier isThere)

theorem nodup_eraseDups (names : List String) : names.eraseDups.Nodup := by
  induction names using List.reverseRecOn with
  | nil => simp
  | append_singleton names name inductionHypothesis =>
      have joined := withStep_eraseDups names (.member name)
      simp only [Step.name?, Option.toList_some] at joined
      rw [← joined]
      exact withStep_nodup _ inductionHypothesis _

theorem eraseDups_append_congr
    {left right : List String}
    (same : left.eraseDups = right.eraseDups)
    (back : List String) :
    (left ++ back).eraseDups = (right ++ back).eraseDups := by
  have sameMembers (name : String) : name ∈ left ↔ name ∈ right := by
    rw [← List.mem_eraseDups, same, List.mem_eraseDups]
  rw [List.eraseDups_append, List.eraseDups_append, same]
  congr 2
  simp only [List.removeAll]
  apply List.filter_congr
  intro name _
  simp [sameMembers name]

/-- Where all prefixes are declared, the names at a position first appear in the
descriptors of its own members. -/
theorem eraseDups_namesAfter_filter
    (descriptors : List FieldDescriptor)
    (parentsFirst : ParentsFirst descriptors)
    (prefixesDeclared : PrefixesDeclared descriptors)
    (position : List Step) :
    (namesAfter descriptors position).eraseDups =
      (namesAfter (descriptors.filter fun descriptor => descriptor.parent = position)
        position).eraseDups := by
  induction descriptors using List.reverseRecOn with
  | nil => rfl
  | append_singleton descriptors descriptor inductionHypothesis =>
      rw [parentsFirst_append_singleton_iff] at parentsFirst
      obtain ⟨earlierFirst, notExtended⟩ := parentsFirst
      have same := inductionHypothesis earlierFirst
        (prefixesDeclared.of_append_singleton notExtended)
      by_cases isChild : descriptor.parent = position
      · rw [List.filter_append, List.filter_singleton]
        simp only [isChild, decide_true, cond_true]
        rw [namesAfter_append_singleton, namesAfter_append_singleton]
        exact eraseDups_append_congr same _
      · rw [List.filter_append, List.filter_singleton]
        simp only [isChild, decide_false, cond_false, List.append_nil]
        rw [← same, namesAfter_append_singleton]
        cases named : nameAfter? position descriptor.position with
        | none => simp
        | some name =>
            -- The name belongs to a member that is declared by an earlier descriptor.
            have isPrefix := (nameAfter?_eq_some_iff _ _ _).mp named
            obtain ⟨other, isOther, ends⟩ :=
              prefixesDeclared descriptor (by simp) position name isPrefix
            have before : other ∈ descriptors := by
              rcases List.mem_append.mp isOther with before | last
              · exact before
              · rw [List.mem_singleton.mp last] at ends
                exact absurd (by simp [parent, ends]) isChild
            have known : name ∈ namesAfter descriptors position :=
              (mem_namesAfter_iff _ _ _).mpr ⟨other, before, by rw [ends]⟩
            simp [List.eraseDups_append, List.removeAll, known]

end FieldDescriptor

namespace TypeTree

/-! ## Two runs -/

theorem at?_append_element_outline
    (tree : TypeTree)
    (position : List Step) :
    (tree.at? (position ++ [.element])).map outline =
      ((tree.at? position).map outline).bind fun node => node.child? .element := by
  rw [at?_append_singleton]
  cases tree.at? position with
  | none => rfl
  | some node => simp [child?_outline]

namespace Describes

variable {left right : List FieldDescriptor} {leftTree rightTree : TypeTree}

/-- What a list describes is a matter of its members and of which of them come last. -/
theorem sameOutlines
    (leftDescribes : Describes left leftTree)
    (rightDescribes : Describes right rightTree)
    (sameMembers : ∀ descriptor, descriptor ∈ left ↔ descriptor ∈ right)
    (sameLast : ∀ position, lastAt? left position = lastAt? right position) :
    SameOutlines leftTree rightTree := by
  intro position
  induction position using List.reverseRecOn with
  | nil => simp [leftDescribes.root, rightDescribes.root]
  | append_singleton front step inductionHypothesis =>
      cases step with
      | element =>
          rw [at?_append_element_outline, at?_append_element_outline, inductionHypothesis]
      | member name =>
          cases isLast : lastAt? left (front ++ [.member name]) with
          | some last =>
              obtain ⟨leftNode, isLeft, leftLeaf⟩ := leftDescribes.declared _ last isLast
              obtain ⟨rightNode, isRight, rightLeaf⟩ :=
                rightDescribes.declared _ last (by rw [← sameLast, isLast])
              rw [leftLeaf, Except.ok.injEq] at rightLeaf
              rw [isLeft, isRight, Option.map_some, Option.map_some, rightLeaf]
          | none =>
              by_cases passes :
                  ∃ descriptor ∈ left, front ++ [.member name] <+: descriptor.position
              · obtain ⟨node, found⟩ := leftDescribes.exists_node passes.choose_spec.1
                  passes.choose_spec.2
                obtain ⟨step, ⟨descriptor, isThere, isPrefix⟩, isContainer⟩ :=
                  leftDescribes.containers_agree found isLast
                obtain ⟨other, isOther, sameContainer⟩ :=
                  rightDescribes.undeclared front name step (by rw [← sameLast, isLast])
                    ⟨descriptor, (sameMembers descriptor).mp isThere, isPrefix⟩
                rw [found, isOther, Option.map_some, Option.map_some, isContainer, sameContainer]
              · simp only [not_exists, not_and] at passes
                rw [leftDescribes.absent front name passes, rightDescribes.absent front name
                  fun descriptor isThere => passes descriptor ((sameMembers descriptor).mpr isThere)]

/-- The names in a described tree are distinct. -/
theorem wellNamed (describes : Describes left leftTree) : leftTree.WellNamed := by
  intro position node found
  rw [describes.ordered position node found]
  exact nodup_eraseDups _

/-- Where the names first appear in the same order, the names stand in the same order. -/
theorem sameNames
    (leftDescribes : Describes left leftTree)
    (rightDescribes : Describes right rightTree)
    (same : SameOutlines leftTree rightTree)
    (sameAppearances : ∀ position,
      (namesAfter left position).eraseDups = (namesAfter right position).eraseDups) :
    SameNames leftTree rightTree := by
  intro position
  have sameOutline := same position
  cases isLeft : leftTree.at? position with
  | none =>
      rw [isLeft] at sameOutline
      rw [Option.map_eq_none_iff.mp sameOutline.symm]
  | some leftNode =>
      rw [isLeft] at sameOutline
      obtain ⟨rightNode, isRight, _⟩ := Option.map_eq_some_iff.mp sameOutline.symm
      rw [isRight, Option.map_some, Option.map_some,
        leftDescribes.ordered position leftNode isLeft,
        rightDescribes.ordered position rightNode isRight, sameAppearances]

end Describes

/-- Both runs are refused, or both complete with related trees. -/
def Agree (related : TypeTree → TypeTree → Prop) :
    Except SchemaFault TypeTree → Except SchemaFault TypeTree → Prop
  | .ok left, .ok right => related left right
  | .error _, .error _ => True
  | _, _ => False

/-- Runs agree when one completes exactly if the other does, with related trees. -/
theorem agree_of_forall
    {related : TypeTree → TypeTree → Prop}
    {left right : Except SchemaFault TypeTree}
    (together : (∃ tree, left = .ok tree) ↔ ∃ tree, right = .ok tree)
    (areRelated : ∀ leftTree rightTree, left = .ok leftTree → right = .ok rightTree →
      related leftTree rightTree) :
    Agree related left right := by
  cases left with
  | ok leftTree =>
      obtain ⟨rightTree, completes⟩ := together.mp ⟨leftTree, rfl⟩
      rw [completes]
      exact areRelated leftTree rightTree rfl completes
  | error leftFault =>
      cases right with
      | error rightFault => trivial
      | ok rightTree =>
          obtain ⟨leftTree, completes⟩ := together.mpr ⟨rightTree, rfl⟩
          cases completes

/-- Lists of the same members with the same last ones are consistent together. -/
theorem consistent_iff
    {left right : List FieldDescriptor}
    (permuted : left.Perm right)
    (sameLast : ∀ position, lastAt? left position = lastAt? right position) :
    Consistent left ↔ Consistent right :=
  ⟨fun consistent => consistent.congr (fun _ => permuted.mem_iff.symm)
      fun position => (sameLast position).symm,
    fun consistent => consistent.congr (fun _ => permuted.mem_iff) sameLast⟩

/-- Two parents-first orders of descriptors with the same last ones agree up to the order
of properties. -/
theorem insertAll_agree
    {left right : List FieldDescriptor}
    (permuted : left.Perm right)
    (sameLast : ∀ position, lastAt? left position = lastAt? right position)
    (leftFirst : ParentsFirst left)
    (rightFirst : ParentsFirst right) :
    Agree Reordered (insertAll left emptyObject).result
      (insertAll right emptyObject).result := by
  apply agree_of_forall
  · rw [insertAll_eq_ok_iff_consistent left leftFirst,
      insertAll_eq_ok_iff_consistent right rightFirst]
    exact consistent_iff permuted sameLast
  · intro leftTree rightTree leftCompletes rightCompletes
    have leftDescribes := describes_of_insertAll left leftFirst leftTree leftCompletes
    have rightDescribes := describes_of_insertAll right rightFirst rightTree rightCompletes
    exact reordered_of_sameOutlines leftTree rightTree leftDescribes.wellNamed
      rightDescribes.wellNamed
      (leftDescribes.sameOutlines rightDescribes (fun _ => permuted.mem_iff) sameLast)

theorem byDepth_perm_of_perm
    {left right : List FieldDescriptor}
    (permuted : left.Perm right) :
    (byDepth left).Perm (byDepth right) :=
  (byDepth_perm left).trans (permuted.trans (byDepth_perm right).symm)

/-- Sorted by depth, siblings keep their order. -/
theorem byDepth_siblingsInOrder
    {left right : List FieldDescriptor}
    (inOrder : SiblingsInOrder left right) :
    SiblingsInOrder (byDepth left) (byDepth right) := by
  intro position
  have level (descriptor : FieldDescriptor)
      (isChild : decide (descriptor.parent = position) = true) :
      descriptor.depth = position.length := by
    have length := descriptor.length_position
    rw [← of_decide_eq_true isChild, parent, List.length_dropLast]
    omega
  rw [filter_byDepth _ position.length level, filter_byDepth _ position.length level, inOrder]

/-- Where all prefixes are declared, lists with the same order of siblings build the same
tree. -/
theorem build_agree_of_siblingsInOrder
    {left right : List FieldDescriptor}
    (permuted : left.Perm right)
    (prefixesDeclared : PrefixesDeclared left)
    (inOrder : SiblingsInOrder left right) :
    Agree Eq (build left).result (build right).result := by
  have sortedPermuted := byDepth_perm_of_perm permuted
  have sortedInOrder := byDepth_siblingsInOrder inOrder
  have leftFirst := byDepth_parentsFirst left
  have rightFirst := byDepth_parentsFirst right
  apply agree_of_forall
  · rw [build, build, insertAll_eq_ok_iff_consistent _ leftFirst,
      insertAll_eq_ok_iff_consistent _ rightFirst]
    exact consistent_iff sortedPermuted sortedInOrder.lastAt?_eq
  · intro leftTree rightTree leftCompletes rightCompletes
    have leftDescribes := describes_of_insertAll _ leftFirst leftTree leftCompletes
    have rightDescribes := describes_of_insertAll _ rightFirst rightTree rightCompletes
    have same := leftDescribes.sameOutlines rightDescribes
      (fun _ => sortedPermuted.mem_iff) sortedInOrder.lastAt?_eq
    have leftDeclared := prefixesDeclared.perm (byDepth_perm left).symm
    have rightDeclared := leftDeclared.perm sortedPermuted
    refine eq_of_sameOutlines_of_sameNames leftTree rightTree leftDescribes.wellNamed
      rightDescribes.wellNamed same (leftDescribes.sameNames rightDescribes same ?_)
    intro position
    rw [eraseDups_namesAfter_filter _ leftFirst leftDeclared,
      eraseDups_namesAfter_filter _ rightFirst rightDeclared, sortedInOrder]

/-- Any two parents-first orders of fields with distinct paths agree up to the order of
properties, and so do the builds of any two orders; where every named prefix is declared
and siblings keep their order, the texts of the built trees are the same. -/
theorem insertion_order_matters_only_among_siblings
    (left right : List FieldDescriptor)
    (permuted : left.Perm right) :
    ((left.map FieldDescriptor.path).Nodup →
        (ParentsFirst left → ParentsFirst right →
          Agree Reordered (insertAll left emptyObject).result
            (insertAll right emptyObject).result) ∧
        Agree Reordered (build left).result (build right).result) ∧
      (PrefixesDeclared left → SiblingsInOrder left right →
        Agree (fun leftTree rightTree => leftTree.render = rightTree.render)
          (build left).result (build right).result) := by
  constructor
  · intro distinct
    refine ⟨insertAll_agree permuted (lastAt?_perm permuted distinct), ?_⟩
    refine insertAll_agree (byDepth_perm_of_perm permuted) ?_ (byDepth_parentsFirst left)
      (byDepth_parentsFirst right)
    intro position
    rw [lastAt?_byDepth, lastAt?_byDepth, lastAt?_perm permuted distinct]
  · intro prefixesDeclared inOrder
    have agree := build_agree_of_siblingsInOrder permuted prefixesDeclared inOrder
    cases leftBuilt : (build left).result <;> cases rightBuilt : (build right).result <;>
      simp_all [Agree]

instance (longer shorter : FieldDescriptor) : Decidable (longer.Extends shorter) :=
  inferInstanceAs (Decidable (_ ∧ _))

instance (descriptors : List FieldDescriptor) : Decidable (ParentsFirst descriptors) :=
  inferInstanceAs (Decidable (List.Pairwise _ _))

instance (descriptors : List FieldDescriptor) : Decidable (PrefixesDeclared descriptors) :=
  decidable_of_iff
    (∀ descriptor ∈ descriptors, ∀ position ∈ descriptor.position.inits,
      ∀ last ∈ position.getLast?, last = .element ∨
        ∃ other ∈ descriptors, other.position = position) <| by
    constructor
    · intro declared descriptor isThere front name isPrefix
      have found := declared descriptor isThere _ ((List.mem_inits _ _).mpr isPrefix)
        (.member name) (by simp)
      simpa using found
    · intro declared descriptor isThere position isPrefix last isLast
      cases last with
      | element => exact .inl rfl
      | member name =>
          obtain ⟨front, rfl⟩ := List.getLast?_eq_some_iff.mp isLast
          exact .inr (declared descriptor isThere front name ((List.mem_inits _ _).mp isPrefix))

instance (left right : List FieldDescriptor) : Decidable (SiblingsInOrder left right) :=
  decidable_of_iff
    (∀ descriptor ∈ left ++ right,
      (left.filter fun other => other.parent = descriptor.parent) =
        right.filter fun other => other.parent = descriptor.parent) <| by
    constructor
    · intro inOrder position
      by_cases isParent : ∃ descriptor ∈ left ++ right, descriptor.parent = position
      · obtain ⟨descriptor, isThere, rfl⟩ := isParent
        exact inOrder descriptor isThere
      · simp only [not_exists, not_and] at isParent
        rw [List.filter_eq_nil_iff.mpr, List.filter_eq_nil_iff.mpr]
        · intro other isThere
          simpa using isParent other (by simp [isThere])
        · intro other isThere
          simpa using isParent other (by simp [isThere])
    · intro inOrder descriptor _
      exact inOrder descriptor.parent

/-- A declared array of objects with two fields, and a field beside it. -/
def siblingFields : List FieldDescriptor :=
  [{ path := "items", declaredType := "Array<Object>", kind := .request },
   { path := "id", declaredType := "Number", kind := .request },
   { path := "items.*.name", declaredType := "String", kind := .request },
   { path := "items.*.count", declaredType := "Number", kind := .request }]

/-- The same fields with all siblings exchanged, parents still first. -/
def exchangedFields : List FieldDescriptor :=
  [siblingFields[1], siblingFields[0], siblingFields[3], siblingFields[2]]

/-- The same fields out of parents-first order, siblings as they were. -/
def scatteredFields : List FieldDescriptor :=
  [siblingFields[2], siblingFields[0], siblingFields[3], siblingFields[1]]

theorem siblingFields_agree_with_other_orders :
    Agree Reordered (insertAll siblingFields emptyObject).result
        (insertAll exchangedFields emptyObject).result ∧
      Agree (fun leftTree rightTree => leftTree.render = rightTree.render)
        (build siblingFields).result (build scatteredFields).result :=
  ⟨((insertion_order_matters_only_among_siblings siblingFields exchangedFields
      (by decide)).1 (by decide)).1 (by decide) (by decide),
    (insertion_order_matters_only_among_siblings siblingFields scatteredFields
      (by decide)).2 (by decide) (by decide)⟩

end TypeTree
end ProtocolTypes
