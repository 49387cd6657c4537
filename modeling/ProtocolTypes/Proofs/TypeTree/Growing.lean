import ProtocolTypes.Proofs.TypeTree.Position
import ProtocolTypes.TypeTree.Insert

/-!
# Growing a tree by one leaf

`Grows` says what a completed insertion does, one constructor for each kind of node that
the path passes.  An insertion completes exactly when the leaf resolves and the tree grows
so (`insertAt_eq_ok_iff`), which it can exactly when every node on the way admits the next
step of the path (`spaced_and_fits_of_grows`, `exists_grows_of_fits`).
-/

namespace ProtocolTypes
namespace Growth

@[simp] theorem result_refused (tree : TypeTree) (fault : SchemaFault) :
    (refused tree fault).result = .error fault := rfl

/-- A growth seen from above completes exactly when it does so below. -/
@[simp] theorem result_lift_eq_ok_iff
    (above : TypeTree → TypeTree)
    (growth : Growth)
    (grown : TypeTree) :
    (growth.lift above).result = .ok grown ↔
      ∃ inner, growth.result = .ok inner ∧ above inner = grown := by
  obtain ⟨tree, steps, fault⟩ := growth
  cases fault <;> simp [lift, result]

@[simp] theorem result_after (step : GrowthStep) (growth : Growth) :
    (growth.after step).result = growth.result := by
  obtain ⟨tree, steps, fault⟩ := growth
  cases fault <;> rfl

end Growth

namespace TypeTree

/-! ## Completed insertions -/

/-- The container that is made where a path goes on by the step. -/
def containerFor : Step → TypeTree
  | .element => array emptyObject .blank
  | .member _ => emptyObject

/-- The first tree grows into the second when the leaf is attached at the position. -/
inductive Grows (leaf : TypeTree) : List Step → TypeTree → TypeTree → Prop
  | attach
      (name : String)
      (properties : List (String × TypeTree))
      (note : Note) :
      Grows leaf [.member name] (object properties note)
        (object (setProperty name leaf properties) note)
  | element
      {next : Step}
      {rest : List Step}
      {properties : List (String × TypeTree)}
      {note arrayNote : Note}
      {grown : TypeTree}
      (below : Grows leaf (next :: rest) (object properties note) grown) :
      Grows leaf (.element :: next :: rest)
        (array (object properties note) arrayNote) (array grown arrayNote)
  | member
      {name : String}
      {next : Step}
      {rest : List Step}
      {properties : List (String × TypeTree)}
      {note : Note}
      {grown : TypeTree}
      (below : Grows leaf (next :: rest)
        ((property? name properties).getD (containerFor next)) grown) :
      Grows leaf (.member name :: next :: rest) (object properties note)
        (object (setProperty name grown properties) note)

theorem attach_eq_ok_iff
    (descriptor : FieldDescriptor)
    (segment : String)
    (tree grown : TypeTree) :
    (attach descriptor segment tree).result = .ok grown ↔
      ∃ leaf, descriptor.leaf = .ok leaf ∧
        Grows leaf [Step.ofSegment segment] tree grown := by
  unfold attach
  by_cases same : segment = wildcard
  · simp only [same, if_true, Growth.result_refused, Step.ofSegment_wildcard]
    constructor
    · intro impossible
      cases impossible
    · rintro ⟨leaf, _, impossible⟩
      cases impossible
  · simp only [same, if_false, Step.ofSegment_of_ne segment same]
    cases tree with
    | object properties note =>
        cases resolves : descriptor.leaf with
        | ok node =>
            simp only [Growth.result, Except.ok.injEq]
            constructor
            · rintro rfl
              exact ⟨node, rfl, .attach segment properties note⟩
            · rintro ⟨leaf, rfl, grows⟩
              cases grows
              rfl
        | error fault => simp [Growth.result]
    | scalar kind note | opaqueJson note | array element note =>
        constructor
        · intro impossible
          cases impossible
        · rintro ⟨leaf, _, impossible⟩
          cases impossible

theorem not_grows_element
    (leaf tree grown : TypeTree) :
    ¬Grows leaf [.element] tree grown := by
  intro impossible
  cases impossible

/-- The container of an insertion is the one for the next step, but before a wildcard that
ends the path: there no insertion completes. -/
theorem synthesized_eq_containerFor
    (next : String)
    (rest : List String)
    (goesOn : next = wildcard → rest ≠ []) :
    synthesized (next :: rest) = containerFor (Step.ofSegment next) := by
  by_cases same : next = wildcard
  · cases rest with
    | nil => exact absurd rfl (goesOn same)
    | cons second rest => simp [synthesized, containerFor, same]
  · cases rest <;>
      simp [synthesized, containerFor, same, Step.ofSegment_of_ne next same]

/-- Inserting into the container that an insertion makes is inserting into the container
for the next step. -/
theorem insertAt_synthesized_eq_ok_iff
    (descriptor : FieldDescriptor)
    (next : String)
    (rest : List String)
    (grown : TypeTree) :
    (insertAt descriptor (next :: rest) (synthesized (next :: rest))).result = .ok grown ↔
      (insertAt descriptor (next :: rest)
        (containerFor (Step.ofSegment next))).result = .ok grown := by
  by_cases ends : next = wildcard ∧ rest = []
  · obtain ⟨rfl, rfl⟩ := ends
    simp [insertAt, attach_eq_ok_iff, not_grows_element]
  · rw [synthesized_eq_containerFor next rest fun same last => ends ⟨same, last⟩]

/-- At a wildcard an insertion completes only in an array of objects, inside its element. -/
theorem insertAt_wildcard_eq_ok_iff
    (descriptor : FieldDescriptor)
    (next : String)
    (rest : List String)
    (tree grown : TypeTree) :
    (insertAt descriptor (wildcard :: next :: rest) tree).result = .ok grown ↔
      ∃ properties note arrayNote inner,
        tree = array (object properties note) arrayNote ∧
        (insertAt descriptor (next :: rest) (object properties note)).result = .ok inner ∧
        array inner arrayNote = grown := by
  simp only [insertAt, if_true]
  split
  · next properties note arrayNote => simp
  · next other =>
      simp only [Growth.result_refused, reduceCtorEq, false_iff]
      rintro ⟨properties, note, arrayNote, inner, equal, _⟩
      exact other properties note arrayNote equal

/-- At a name an insertion completes only in an object, inside the member of that name or
the container that is made for it. -/
theorem insertAt_name_eq_ok_iff
    (descriptor : FieldDescriptor)
    (name next : String)
    (named : name ≠ wildcard)
    (rest : List String)
    (tree grown : TypeTree) :
    (insertAt descriptor (name :: next :: rest) tree).result = .ok grown ↔
      ∃ properties note inner,
        tree = object properties note ∧
        (insertAt descriptor (next :: rest)
          ((property? name properties).getD
            (containerFor (Step.ofSegment next)))).result = .ok inner ∧
        object (setProperty name inner properties) note = grown := by
  simp only [insertAt, named, if_false]
  split
  · next properties note =>
      split
      · next child isChild => simp [isChild]
      · next absent =>
          simp [absent, insertAt_synthesized_eq_ok_iff]
  · next other =>
      simp only [Growth.result_refused, reduceCtorEq, false_iff]
      rintro ⟨properties, note, inner, equal, _⟩
      exact other properties note equal

/-- An insertion completes exactly when its leaf resolves and the tree grows by it. -/
theorem insertAt_eq_ok_iff
    (descriptor : FieldDescriptor)
    (segments : List String)
    (present : segments ≠ [])
    (tree grown : TypeTree) :
    (insertAt descriptor segments tree).result = .ok grown ↔
      ∃ leaf, descriptor.leaf = .ok leaf ∧
        Grows leaf (segments.map Step.ofSegment) tree grown := by
  induction segments generalizing tree grown with
  | nil => exact absurd rfl present
  | cons segment rest inductionHypothesis =>
      cases rest with
      | nil => exact attach_eq_ok_iff descriptor segment tree grown
      | cons next rest =>
          have below := inductionHypothesis (by simp)
          by_cases same : segment = wildcard
          · subst same
            rw [insertAt_wildcard_eq_ok_iff]
            simp only [below, List.map_cons, Step.ofSegment_wildcard]
            constructor
            · rintro ⟨properties, note, arrayNote, inner, rfl, ⟨leaf, resolves, grows⟩, rfl⟩
              exact ⟨leaf, resolves, .element grows⟩
            · rintro ⟨leaf, resolves, grows⟩
              cases grows with
              | element grows => exact ⟨_, _, _, _, rfl, ⟨leaf, resolves, grows⟩, rfl⟩
          · rw [insertAt_name_eq_ok_iff descriptor segment next same]
            simp only [below, List.map_cons, Step.ofSegment_of_ne segment same]
            constructor
            · rintro ⟨properties, note, inner, rfl, ⟨leaf, resolves, grows⟩, rfl⟩
              exact ⟨leaf, resolves, .member grows⟩
            · rintro ⟨leaf, resolves, grows⟩
              cases grows with
              | member grows => exact ⟨_, _, _, rfl, ⟨leaf, resolves, grows⟩, rfl⟩

/-- A descriptor is taken exactly when its leaf resolves and the tree grows by it. -/
theorem insert_eq_ok_iff
    (descriptor : FieldDescriptor)
    (tree grown : TypeTree) :
    (insert descriptor tree).result = .ok grown ↔
      ∃ leaf, descriptor.leaf = .ok leaf ∧
        Grows leaf descriptor.position tree grown :=
  insertAt_eq_ok_iff descriptor descriptor.segments descriptor.segments_ne_nil tree grown

/-! ## When a tree can grow -/

/-- Whether a path may go on from the node by the step. -/
def Admits : TypeTree → Step → Prop
  | object _ _, .member _ => True
  | array (object _ _) _, .element => True
  | _, _ => False

theorem admits_member_iff (tree : TypeTree) (name : String) :
    tree.Admits (.member name) ↔ ∃ properties note, tree = object properties note := by
  cases tree with
  | object properties note => simp [Admits]
  | array element note => cases element <;> simp [Admits]
  | scalar kind note | opaqueJson note => simp [Admits]

theorem admits_element_iff (tree : TypeTree) :
    tree.Admits .element ↔
      ∃ properties note arrayNote, tree = array (object properties note) arrayNote := by
  cases tree with
  | array element note => cases element <;> simp [Admits]
  | scalar kind note | opaqueJson note | object properties note => simp [Admits]

/-- What a node admits is a matter of its outline. -/
@[simp] theorem admits_outline (tree : TypeTree) (step : Step) :
    tree.outline.Admits step ↔ tree.Admits step := by
  cases tree with
  | array element note => cases element <;> cases step <;> rfl
  | scalar kind note | opaqueJson note | object properties note => cases step <;> rfl

/-- A container that admits a step is the one that is made for it. -/
theorem containerFor_eq_of_admits
    {made step : Step}
    (admits : (containerFor made).Admits step) :
    containerFor made = containerFor step := by
  cases made <;> cases step <;> first | rfl | exact absurd admits id

/-- Every node on the way admits the next step of the path. -/
def Fits (tree : TypeTree) (position : List Step) : Prop :=
  ∀ front step back node,
    front ++ step :: back = position → tree.at? front = some node → node.Admits step

theorem Fits.admits_head
    {tree : TypeTree}
    {step : Step}
    {rest : List Step}
    (fits : tree.Fits (step :: rest)) :
    tree.Admits step :=
  fits [] step rest tree rfl rfl

/-- A path fits when its first step is admitted and the rest of it fits below. -/
theorem fits_cons_iff
    (tree : TypeTree)
    (step : Step)
    (rest : List Step) :
    tree.Fits (step :: rest) ↔
      tree.Admits step ∧ ∀ child, tree.child? step = some child → child.Fits rest := by
  constructor
  · intro fits
    refine ⟨fits.admits_head, ?_⟩
    intro child isChild front next back node split found
    refine fits (step :: front) next back node (by simp [split]) ?_
    simp [isChild, found]
  · rintro ⟨admitted, below⟩ front next back node split found
    cases front with
    | nil =>
        simp only [List.nil_append, List.cons.injEq] at split
        simp only [at?_nil, Option.some.injEq] at found
        rw [← found, split.1]
        exact admitted
    | cons first front =>
        simp only [List.cons_append, List.cons.injEq] at split
        obtain ⟨rfl, split⟩ := split
        simp only [at?_cons, Option.bind_eq_some_iff] at found
        obtain ⟨child, isChild, found⟩ := found
        exact below child isChild front next back node split found

/-- A path whose wildcards stand apart from each other and from its end. -/
structure Spaced (position : List Step) : Prop where
  /-- The path ends in a name. -/
  named_last : position.getLast? ≠ some .element
  /-- No wildcard follows another. -/
  apart : ¬[Step.element, Step.element] <:+: position

theorem Spaced.tail
    {step : Step}
    {rest : List Step}
    (spaced : Spaced (step :: rest)) :
    Spaced rest where
  named_last := by
    intro ends
    apply spaced.named_last
    rw [List.getLast?_cons, ends]
    rfl
  apart := fun inside =>
    spaced.apart (inside.trans (List.infix_cons_iff.mpr (.inr (List.infix_refl rest))))

theorem spaced_cons_cons_iff
    (first second : Step)
    (rest : List Step) :
    Spaced (first :: second :: rest) ↔
      Spaced (second :: rest) ∧ ¬(first = .element ∧ second = .element) := by
  constructor
  · intro spaced
    refine ⟨spaced.tail, ?_⟩
    rintro ⟨rfl, rfl⟩
    exact spaced.apart ⟨[], rest, rfl⟩
  · rintro ⟨spaced, different⟩
    refine ⟨by simpa using spaced.named_last, ?_⟩
    intro inside
    rcases List.infix_cons_iff.mp inside with start | later
    · simp only [List.cons_prefix_cons, List.nil_prefix, and_true] at start
      exact different ⟨start.1.symm, start.2.symm⟩
    · exact spaced.apart later

theorem fits_nil (tree : TypeTree) : tree.Fits [] := by
  intro front step back node split
  simp at split

/-- Every path that begins with a name fits into the empty object. -/
theorem emptyObject_fits
    (position : List Step)
    (named : position.head? ≠ some .element) :
    emptyObject.Fits position := by
  cases position with
  | nil => exact fits_nil emptyObject
  | cons step rest =>
      cases step with
      | element => exact absurd rfl named
      | member name =>
          rw [fits_cons_iff]
          refine ⟨trivial, ?_⟩
          intro child isChild
          simp [child?, emptyObject, property?] at isChild

/-- A well spaced path fits into the container that is made for it. -/
theorem containerFor_fits
    (step : Step)
    (rest : List Step)
    (spaced : Spaced (step :: rest)) :
    (containerFor step).Fits (step :: rest) := by
  cases step with
  | member name => exact emptyObject_fits _ (by simp)
  | element =>
      simp only [containerFor, fits_cons_iff]
      refine ⟨trivial, ?_⟩
      intro child isChild
      simp only [child?, Option.some.injEq] at isChild
      rw [← isChild]
      apply emptyObject_fits
      cases rest with
      | nil => simp
      | cons second rest =>
          intro wild
          exact ((spaced_cons_cons_iff _ _ _).mp spaced).2 ⟨rfl, by simpa using wild⟩

/-- Whatever grew was well spaced and fitted. -/
theorem spaced_and_fits_of_grows
    {leaf tree grown : TypeTree}
    {position : List Step}
    (grows : Grows leaf position tree grown) :
    Spaced position ∧ tree.Fits position := by
  induction grows with
  | attach name properties note =>
      refine ⟨⟨by simp, by simp [List.infix_cons_iff]⟩, ?_⟩
      rw [fits_cons_iff]
      exact ⟨trivial, fun child _ => fits_nil child⟩
  | element below inductionHypothesis =>
      obtain ⟨spaced, fits⟩ := inductionHypothesis
      constructor
      · rw [spaced_cons_cons_iff]
        refine ⟨spaced, ?_⟩
        rintro ⟨_, rfl⟩
        exact fits.admits_head
      · rw [fits_cons_iff]
        refine ⟨trivial, ?_⟩
        intro child isChild
        simp only [child?, Option.some.injEq] at isChild
        rwa [← isChild]
  | member below inductionHypothesis =>
      obtain ⟨spaced, fits⟩ := inductionHypothesis
      constructor
      · rw [spaced_cons_cons_iff]
        exact ⟨spaced, by simp⟩
      · rw [fits_cons_iff]
        refine ⟨trivial, ?_⟩
        intro child isChild
        simp only [child?] at isChild
        simpa [isChild] using fits

/-- A path that is well spaced and fits can be grown: a container that is missing on the way
fits the rest of the path. -/
theorem exists_grows_of_fits
    (leaf : TypeTree)
    (position : List Step)
    (present : position ≠ [])
    (tree : TypeTree)
    (spaced : Spaced position)
    (fits : tree.Fits position) :
    ∃ grown, Grows leaf position tree grown := by
  induction position generalizing tree with
  | nil => exact absurd rfl present
  | cons step rest inductionHypothesis =>
      obtain ⟨admitted, below⟩ := (fits_cons_iff tree step rest).mp fits
      cases step with
      | element =>
          obtain ⟨properties, note, arrayNote, rfl⟩ := (admits_element_iff tree).mp admitted
          cases rest with
          | nil => exact absurd rfl spaced.named_last
          | cons next rest =>
              obtain ⟨grown, grows⟩ := inductionHypothesis (by simp)
                (object properties note) spaced.tail (below _ rfl)
              exact ⟨_, .element grows⟩
      | member name =>
          obtain ⟨properties, note, rfl⟩ := (admits_member_iff tree name).mp admitted
          cases rest with
          | nil => exact ⟨_, .attach name properties note⟩
          | cons next rest =>
              have childFits :
                  ((property? name properties).getD (containerFor next)).Fits
                    (next :: rest) := by
                cases isChild : property? name properties with
                | some child => exact below child isChild
                | none => exact containerFor_fits next rest spaced.tail
              obtain ⟨grown, grows⟩ := inductionHypothesis (by simp) _ spaced.tail childFits
              exact ⟨_, .member grows⟩

end TypeTree
end ProtocolTypes
