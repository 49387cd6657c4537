import ProtocolTypes.Proofs.TypeTree.DeclaredText
import ProtocolTypes.Proofs.TypeTree.FieldList
import ProtocolTypes.Proofs.TypeTree.Grown

/-!
# What an insertion touches

An insertion changes the tree along its own path alone.  A completed one attaches its leaf
and keeps every node that is neither at nor below it; a refused one keeps every node there
is, and leaves behind at most a chain of bare containers that ends before its path does.
The same insertion made again changes nothing more, and has the same end
(`insertion_touches_only_its_path`).
-/

namespace ProtocolTypes

/-- An insertion has a result exactly if it has no fault. -/
theorem Growth.result_eq_ok_iff (growth : Growth) (tree : TypeTree) :
    growth.result = .ok tree ↔ growth.fault = none ∧ growth.tree = tree := by
  obtain ⟨grown, steps, fault⟩ := growth
  cases fault <;> simp [result]

namespace TypeTree

/-! ## One step of the way -/

section Way

variable
  (descriptor : FieldDescriptor)
  (next : String)
  (rest : List String)

/-- In an array of objects the way goes on in the element. -/
theorem insertAt_element
    (properties : List (String × TypeTree))
    (note arrayNote : Note) :
    insertAt descriptor (wildcard :: next :: rest) (array (object properties note) arrayNote) =
      (insertAt descriptor (next :: rest) (object properties note)).lift
        fun element => array element arrayNote := by
  simp [insertAt]

/-- In an object the way goes on in the member of that name, or in the container that is
made for it. -/
theorem insertAt_name
    {name : String}
    (named : name ≠ wildcard)
    (properties : List (String × TypeTree))
    (note : Note) :
    let below := insertAt descriptor (next :: rest)
      ((property? name properties).getD (synthesized (next :: rest)))
    (insertAt descriptor (name :: next :: rest) (object properties note)).tree =
        object (setProperty name below.tree properties) note ∧
      (insertAt descriptor (name :: next :: rest) (object properties note)).fault =
        below.fault := by
  cases isChild : property? name properties <;>
    simp [insertAt, named, isChild, Growth.lift, Growth.after]

/-- Where the next step is not admitted the way ends, and the tree stays as it is. -/
theorem tree_insertAt_of_not_admits
    (segment : String)
    (tree : TypeTree)
    (blocked : ¬tree.Admits (Step.ofSegment segment)) :
    (insertAt descriptor (segment :: next :: rest) tree).tree = tree := by
  by_cases same : segment = wildcard
  · subst same
    rw [Step.ofSegment_wildcard, admits_element_iff] at blocked
    simp only [insertAt, if_true]
    split
    · next properties note arrayNote => exact absurd ⟨properties, note, arrayNote, rfl⟩ blocked
    · rfl
  · rw [Step.ofSegment_of_ne segment same, admits_member_iff] at blocked
    simp only [insertAt, same, if_false]
    split
    · next properties note => exact absurd ⟨properties, note, rfl⟩ blocked
    · rfl

end Way

/-- Attaching a leaf sets one property of an object, or leaves the tree as it is. -/
theorem tree_attach
    (descriptor : FieldDescriptor)
    (segment : String)
    (tree : TypeTree) :
    (attach descriptor segment tree).tree = tree ∨
      (attach descriptor segment tree).fault = none ∧ segment ≠ wildcard ∧
        ∃ properties note leaf, tree = object properties note ∧
          descriptor.leaf = .ok leaf ∧
          (attach descriptor segment tree).tree =
            object (setProperty segment leaf properties) note := by
  by_cases same : segment = wildcard
  · left
    simp [attach, same, Growth.refused]
  · cases tree with
    | object properties note =>
        cases resolves : descriptor.leaf with
        | ok leaf =>
            right
            exact ⟨by simp [attach, same, resolves], same, properties, note, leaf, rfl, rfl,
              by simp [attach, same, resolves]⟩
        | error fault =>
            left
            simp [attach, same, resolves]
    | scalar kind note | opaqueJson note | array element note =>
        left
        simp [attach, same, Growth.refused]

/-- A leaf that is refused leaves the tree as it is. -/
theorem tree_attach_of_fault
    (descriptor : FieldDescriptor)
    (segment : String)
    (tree : TypeTree)
    (fault : SchemaFault)
    (refused : (attach descriptor segment tree).fault = some fault) :
    (attach descriptor segment tree).tree = tree := by
  rcases tree_attach descriptor segment tree with kept | ⟨succeeds, _⟩
  · exact kept
  · rw [succeeds] at refused
    cases refused

/-! ## Insertions made again -/

theorem setProperty_setProperty
    (name : String)
    (tree : TypeTree)
    (properties : List (String × TypeTree)) :
    setProperty name tree (setProperty name tree properties) =
      setProperty name tree properties := by
  induction properties with
  | nil => simp [setProperty]
  | cons property rest inductionHypothesis =>
      obtain ⟨other, old⟩ := property
      by_cases same : other = name <;> simp [setProperty, same, inductionHypothesis]

/-- Attaching a leaf again changes nothing, and is refused if it was. -/
theorem attach_again
    (descriptor : FieldDescriptor)
    (segment : String)
    (tree : TypeTree) :
    let grown := attach descriptor segment tree
    (attach descriptor segment grown.tree).tree = grown.tree ∧
      (attach descriptor segment grown.tree).fault = grown.fault := by
  by_cases same : segment = wildcard
  · simp [attach, same, Growth.refused]
  · cases tree with
    | object properties note =>
        cases resolves : descriptor.leaf <;>
          simp [attach, same, resolves, setProperty_setProperty]
    | scalar kind note | opaqueJson note | array element note =>
        simp [attach, same, Growth.refused]

/-- An object stays an object, whatever is inserted. -/
theorem exists_object_of_insertAt
    (descriptor : FieldDescriptor)
    (segments : List String)
    (properties : List (String × TypeTree))
    (note : Note) :
    ∃ later, (insertAt descriptor segments (object properties note)).tree =
      object later note := by
  have attached (segment : String) :
      ∃ later, (attach descriptor segment (object properties note)).tree = object later note := by
    rcases tree_attach descriptor segment (object properties note) with
      same | ⟨_, _, before, noteBefore, leaf, isObject, _, attached⟩
    · exact ⟨properties, same⟩
    · cases isObject
      exact ⟨_, attached⟩
  match segments with
  | [] => exact attached ""
  | [leaf] => exact attached leaf
  | segment :: next :: rest =>
      by_cases same : segment = wildcard
      · refine ⟨properties, tree_insertAt_of_not_admits descriptor next rest segment _ ?_⟩
        rw [same, Step.ofSegment_wildcard, admits_element_iff]
        simp
      · exact ⟨_, (insertAt_name descriptor next rest same properties note).1⟩

/-! ## Properties that insertions keep -/

/-- A property of trees that every step of an insertion keeps: it holds of the leaf and of
the containers that are made, goes over to what lies below, and comes back to an object with
a property set and to an array with another object in it. -/
structure KeptByInsertion (descriptor : FieldDescriptor) (holds : TypeTree → Prop) : Prop where
  leaf : ∀ leaf, descriptor.leaf = .ok leaf → holds leaf
  container : ∀ segments, holds (synthesized segments)
  child : ∀ properties note name child, holds (object properties note) →
    property? name properties = some child → holds child
  element : ∀ element note, holds (array element note) → holds element
  setChild : ∀ properties note name child, name ∈ descriptor.segments → name ≠ wildcard →
    holds (object properties note) → holds child →
    holds (object (setProperty name child properties) note)
  setElement : ∀ before later note arrayNote,
    holds (array (object before note) arrayNote) → holds (object later note) →
    holds (array (object later note) arrayNote)

/-- What each step of an insertion keeps holds after the insertion of a path; by induction on the
path. -/
theorem KeptByInsertion.holds_insertAt
    {descriptor : FieldDescriptor}
    {holds : TypeTree → Prop}
    (kept : KeptByInsertion descriptor holds)
    (segments : List String)
    (present : segments ≠ [])
    (within : ∀ segment ∈ segments, segment ∈ descriptor.segments)
    (tree : TypeTree)
    (before : holds tree) :
    holds (insertAt descriptor segments tree).tree := by
  induction segments generalizing tree with
  | nil => exact absurd rfl present
  | cons segment rest inductionHypothesis =>
      have isSegment := within segment (by simp)
      cases rest with
      | nil =>
          rw [insertAt]
          rcases tree_attach descriptor segment tree with
            same | ⟨_, named, properties, note, leaf, rfl, resolves, attached⟩
          · rwa [same]
          · rw [attached]
            exact kept.setChild properties note segment leaf isSegment named before
              (kept.leaf leaf resolves)
      | cons next rest =>
          have below := inductionHypothesis (by simp) fun other isThere =>
            within other (by simp [isThere])
          by_cases admits : tree.Admits (Step.ofSegment segment)
          · by_cases same : segment = wildcard
            · subst same
              rw [Step.ofSegment_wildcard, admits_element_iff] at admits
              obtain ⟨properties, note, arrayNote, rfl⟩ := admits
              obtain ⟨later, isObject⟩ :=
                exists_object_of_insertAt descriptor (next :: rest) properties note
              have inside := below _ (kept.element _ _ before)
              rw [isObject] at inside
              rw [insertAt_element, Growth.lift, isObject]
              exact kept.setElement properties later note arrayNote before inside
            · rw [Step.ofSegment_of_ne segment same, admits_member_iff] at admits
              obtain ⟨properties, note, rfl⟩ := admits
              rw [(insertAt_name descriptor next rest same properties note).1]
              refine kept.setChild properties note segment _ isSegment same before (below _ ?_)
              cases isChild : property? segment properties with
              | some child => exact kept.child properties note segment child before isChild
              | none => exact kept.container (next :: rest)
          · rwa [tree_insertAt_of_not_admits descriptor next rest segment tree admits]

/-- An insertion keeps the property, also where it is refused on its way. -/
theorem KeptByInsertion.holds_insert
    {descriptor : FieldDescriptor}
    {holds : TypeTree → Prop}
    (kept : KeptByInsertion descriptor holds)
    (tree : TypeTree)
    (before : holds tree) :
    holds (insert descriptor tree).tree :=
  kept.holds_insertAt descriptor.segments descriptor.segments_ne_nil (fun _ isThere => isThere)
    tree before

/-- A run of insertions keeps the property, also where one is refused. -/
theorem holds_insertAll
    {holds : TypeTree → Prop}
    (descriptors : List FieldDescriptor)
    (kept : ∀ descriptor ∈ descriptors, KeptByInsertion descriptor holds)
    (tree : TypeTree)
    (before : holds tree) :
    holds (insertAll descriptors tree).tree := by
  induction descriptors generalizing tree with
  | nil => exact before
  | cons descriptor rest inductionHypothesis =>
      have first := (kept descriptor (by simp)).holds_insert tree before
      rw [insertAll]
      cases (insert descriptor tree).fault with
      | some fault => exact first
      | none => exact inductionHypothesis (fun other isThere => kept other (by simp [isThere])) _ first

/-- What holds of the empty object holds of every tree that is built. -/
theorem holds_build
    {holds : TypeTree → Prop}
    (descriptors : List FieldDescriptor)
    (kept : ∀ descriptor ∈ descriptors, KeptByInsertion descriptor holds)
    (atFirst : holds emptyObject) :
    holds (build descriptors).tree :=
  holds_insertAll (byDepth descriptors)
    (fun descriptor isThere => kept descriptor (List.mem_mergeSort.mp isThere))
    emptyObject atFirst

/-! ## The same insertion again -/

/-- Going down again leads along the same way, since what was missing on it is there now. -/
theorem insertAt_again
    (descriptor : FieldDescriptor)
    (segments : List String)
    (tree : TypeTree) :
    let grown := insertAt descriptor segments tree
    (insertAt descriptor segments grown.tree).tree = grown.tree ∧
      (insertAt descriptor segments grown.tree).fault = grown.fault := by
  induction segments generalizing tree with
  | nil => exact attach_again descriptor "" tree
  | cons segment rest inductionHypothesis =>
      cases rest with
      | nil => exact attach_again descriptor segment tree
      | cons next rest =>
          dsimp only at inductionHypothesis ⊢
          by_cases admits : tree.Admits (Step.ofSegment segment)
          · by_cases same : segment = wildcard
            · subst same
              rw [Step.ofSegment_wildcard, admits_element_iff] at admits
              obtain ⟨properties, note, arrayNote, rfl⟩ := admits
              obtain ⟨later, isObject⟩ :=
                exists_object_of_insertAt descriptor (next :: rest) properties note
              have below := inductionHypothesis (object properties note)
              rw [isObject] at below
              simp only [insertAt_element, Growth.lift, isObject]
              exact ⟨by rw [below.1], below.2⟩
            · rw [Step.ofSegment_of_ne segment same, admits_member_iff] at admits
              obtain ⟨properties, note, rfl⟩ := admits
              have first := insertAt_name descriptor next rest same properties note
              have below := inductionHypothesis
                ((property? segment properties).getD (synthesized (next :: rest)))
              have again := insertAt_name descriptor next rest same
                (setProperty segment (insertAt descriptor (next :: rest)
                  ((property? segment properties).getD
                    (synthesized (next :: rest)))).tree properties) note
              simp only [property?_setProperty_self, Option.getD_some, below.1, below.2,
                setProperty_setProperty] at again
              rw [first.1, first.2]
              exact again
          · have kept := tree_insertAt_of_not_admits descriptor next rest segment tree admits
            rw [kept]
            exact ⟨kept, rfl⟩

/-! ## Refused insertions -/

/-- Bare containers one inside the other, along the steps. -/
def chain : List Step → TypeTree
  | [] => emptyObject
  | .element :: rest => array (chain rest) .blank
  | .member name :: rest => object [(name, chain rest)] .blank

/-- An insertion that is refused inside the container that was made for it, or inside an
empty object, has made a chain of containers along a part of its path. -/
theorem tree_insertAt_bare
    (descriptor : FieldDescriptor)
    (segments : List String)
    (present : segments ≠ [])
    (container : TypeTree)
    (bare : container = emptyObject ∨ container = synthesized segments)
    (fault : SchemaFault)
    (refused : (insertAt descriptor segments container).fault = some fault) :
    ∃ reach next back, reach ++ next :: back = segments.map Step.ofSegment ∧
      (insertAt descriptor segments container).tree = chain reach := by
  induction segments generalizing container with
  | nil => exact absurd rfl present
  | cons segment rest inductionHypothesis =>
      have stops (isEmpty : container = emptyObject)
          (kept : (insertAt descriptor (segment :: rest) container).tree = container) :
          ∃ reach next back, reach ++ next :: back = (segment :: rest).map Step.ofSegment ∧
            (insertAt descriptor (segment :: rest) container).tree = chain reach :=
        ⟨[], _, _, rfl, by rw [kept, isEmpty]; rfl⟩
      cases rest with
      | nil =>
          exact stops (by simpa [synthesized] using bare)
            (tree_attach_of_fault descriptor segment container fault refused)
      | cons next rest =>
          by_cases same : segment = wildcard
          · subst same
            rcases bare with isEmpty | isArray
            · refine stops isEmpty (tree_insertAt_of_not_admits descriptor next rest _ _ ?_)
              rw [isEmpty, Step.ofSegment_wildcard]
              exact id
            · replace isArray : container = array (object [] .blank) .blank := by
                rw [isArray]
                simp [synthesized, emptyObject]
              subst isArray
              rw [insertAt_element] at refused ⊢
              obtain ⟨reach, step, back, split, isChain⟩ :=
                inductionHypothesis (by simp) (object [] .blank) (.inl rfl) refused
              refine ⟨.element :: reach, step, back, ?_, ?_⟩
              · rw [List.map_cons, Step.ofSegment_wildcard, ← split]
                rfl
              · simp [Growth.lift, chain, isChain]
          · replace bare : container = object [] .blank := by
              simpa [synthesized, same, emptyObject] using bare
            subst bare
            obtain ⟨isTree, isFault⟩ := insertAt_name descriptor next rest same [] .blank
            rw [isFault] at refused
            obtain ⟨reach, step, back, split, isChain⟩ :=
              inductionHypothesis (by simp) (synthesized (next :: rest)) (.inr rfl) refused
            refine ⟨.member segment :: reach, step, back, ?_, ?_⟩
            · rw [List.map_cons, Step.ofSegment_of_ne segment same, ← split]
              rfl
            · rw [isTree]
              simpa [setProperty, chain, property?] using isChain

/-- What a refused insertion may leave behind: a chain of bare containers where its path
first led out of the tree, which ends before the path does. -/
inductive Leftover (position : List Step) (before : TypeTree) : TypeTree → Prop
  | nothing : Leftover position before before
  | containers
      (front reach back : List Step)
      (name : String)
      (next : Step)
      {after parent : TypeTree}
      (split : front ++ .member name :: reach ++ next :: back = position)
      (isParent : before.at? front = some parent)
      (absent : before.at? (front ++ [.member name]) = none)
      (grows : Grows (chain reach) (front ++ [.member name]) before after) :
      Leftover position before after

theorem Leftover.element
    {position : List Step}
    {properties : List (String × TypeTree)}
    {note arrayNote : Note}
    {after : TypeTree}
    (leftover : Leftover position (object properties note) after) :
    Leftover (.element :: position) (array (object properties note) arrayNote)
      (array after arrayNote) := by
  cases leftover with
  | nothing => exact .nothing
  | containers front reach back name next split isParent absent grows =>
      refine .containers (.element :: front) reach back name next (by rw [← split]; rfl)
        isParent absent ?_
      obtain ⟨step, rest, isTop⟩ := List.exists_cons_of_ne_nil
        (List.append_ne_nil_of_right_ne_nil _ (List.cons_ne_nil _ _))
      rw [isTop] at grows
      rw [List.cons_append, isTop]
      exact .element grows

/-- Setting a property to what it is changes nothing. -/
theorem setProperty_of_property?
    (name : String)
    (child : TypeTree)
    (properties : List (String × TypeTree))
    (isChild : property? name properties = some child) :
    setProperty name child properties = properties := by
  induction properties with
  | nil => cases isChild
  | cons property rest inductionHypothesis =>
      obtain ⟨other, old⟩ := property
      by_cases same : other = name
      · simp only [property?, same, if_true, Option.some.injEq] at isChild
        simp [setProperty, same, isChild]
      · simp only [property?, same, if_false] at isChild
        simp [setProperty, same, inductionHypothesis isChild]

theorem Leftover.member
    {position : List Step}
    {name : String}
    {properties : List (String × TypeTree)}
    {note : Note}
    {child after : TypeTree}
    (isChild : property? name properties = some child)
    (leftover : Leftover position child after) :
    Leftover (.member name :: position) (object properties note)
      (object (setProperty name after properties) note) := by
  cases leftover with
  | nothing =>
      rw [setProperty_of_property? name child properties isChild]
      exact .nothing
  | containers front reach back newName next split isParent absent grows =>
      refine .containers (.member name :: front) reach back newName next (by rw [← split]; rfl)
        (by simpa [child?, isChild] using isParent)
        (by simpa [child?, isChild] using absent) ?_
      obtain ⟨step, rest, isTop⟩ := List.exists_cons_of_ne_nil
        (List.append_ne_nil_of_right_ne_nil front (List.cons_ne_nil _ _))
      rw [isTop] at grows
      rw [List.cons_append, isTop]
      exact .member (by simpa [isChild] using grows)

/-- A refused insertion leaves nothing behind, or a chain of bare containers. -/
theorem leftover_of_insertAt_fault
    (descriptor : FieldDescriptor)
    (segments : List String)
    (tree : TypeTree)
    (fault : SchemaFault)
    (refused : (insertAt descriptor segments tree).fault = some fault) :
    Leftover (segments.map Step.ofSegment) tree (insertAt descriptor segments tree).tree := by
  induction segments generalizing tree with
  | nil =>
      rw [insertAt, tree_attach_of_fault descriptor "" tree fault refused]
      exact .nothing
  | cons segment rest inductionHypothesis =>
      cases rest with
      | nil =>
          rw [insertAt, tree_attach_of_fault descriptor segment tree fault refused]
          exact .nothing
      | cons next rest =>
          by_cases admits : tree.Admits (Step.ofSegment segment)
          · by_cases same : segment = wildcard
            · subst same
              rw [Step.ofSegment_wildcard, admits_element_iff] at admits
              obtain ⟨properties, note, arrayNote, rfl⟩ := admits
              rw [insertAt_element] at refused ⊢
              rw [List.map_cons, Step.ofSegment_wildcard]
              exact (inductionHypothesis (object properties note) refused).element
            · rw [Step.ofSegment_of_ne segment same, admits_member_iff] at admits
              obtain ⟨properties, note, rfl⟩ := admits
              obtain ⟨isTree, isFault⟩ := insertAt_name descriptor next rest same properties note
              rw [isFault] at refused
              rw [isTree, List.map_cons, Step.ofSegment_of_ne segment same]
              cases isChild : property? segment properties with
              | some child =>
                  rw [isChild] at refused
                  exact (inductionHypothesis child refused).member isChild
              | none =>
                  rw [isChild] at refused
                  obtain ⟨reach, step, back, split, isChain⟩ := tree_insertAt_bare descriptor
                    (next :: rest) (by simp) _ (.inr rfl) fault refused
                  refine .containers [] reach back segment step (by rw [← split]; rfl) rfl
                    (by simpa [child?] using isChild) ?_
                  rw [Option.getD_none, isChain]
                  exact .attach segment properties note
          · rw [tree_insertAt_of_not_admits descriptor next rest segment tree admits]
            exact .nothing

/-! ## What is kept -/

/-- What an insertion leaves of a node: its outline, and its names in their order with at
most one new name behind them. -/
structure KeptAs (earlier later : TypeTree) : Prop where
  outline : later.outline = earlier.outline
  names : later.names = earlier.names ∨ ∃ name, later.names = earlier.names ++ [name]

theorem KeptAs.refl (node : TypeTree) : KeptAs node node := ⟨rfl, .inl rfl⟩

/-- Outside of the leaf every node is kept. -/
theorem Grows.kept
    {leaf tree grown : TypeTree}
    {path : List Step}
    (grows : Grows leaf path tree grown)
    (position : List Step)
    (node : TypeTree)
    (found : tree.at? position = some node)
    (outside : ¬path <+: position) :
    ∃ later, grown.at? position = some later ∧ KeptAs node later := by
  rcases FieldDescriptor.below_or_above_or_apart position path with
    ⟨below, rfl⟩ | ⟨step, back, split⟩ | ⟨notAbove, notBelow⟩
  · exact absurd (List.prefix_append path below) outside
  · obtain ⟨later, isLater, sameOutline, sameNames⟩ := grows.at?_above position step back split
    rw [found, Option.getD_some] at sameOutline sameNames
    refine ⟨later, isLater, sameOutline, ?_⟩
    cases step with
    | element => exact .inl sameNames
    | member name =>
        simp only [withStep] at sameNames
        split at sameNames
        · exact .inl sameNames
        · exact .inr ⟨name, sameNames⟩
  · exact ⟨node, by rw [grows.at?_of_apart position notAbove notBelow, found], .refl node⟩

/-- What a completed insertion makes of a tree. -/
structure Placed (descriptor : FieldDescriptor) (before after : TypeTree) : Prop where
  /-- The leaf stands at the end of the path. -/
  leaf : ∃ leaf, descriptor.leaf = .ok leaf ∧ after.at? descriptor.position = some leaf
  /-- Every node that is neither there nor below is kept. -/
  kept : ∀ position node, before.at? position = some node →
    ¬descriptor.position <+: position →
    ∃ later, after.at? position = some later ∧ KeptAs node later
  /-- There are new members on the path alone. -/
  added : ∀ front name, before.at? (front ++ [.member name]) = none →
    (after.at? (front ++ [.member name])).isSome →
    front ++ [.member name] <+: descriptor.position

/-- What a refused insertion makes of a tree. -/
structure Abandoned (descriptor : FieldDescriptor) (before after : TypeTree) : Prop where
  /-- Every node is kept, at the end of the path and below it, too. -/
  kept : ∀ position node, before.at? position = some node →
    ∃ later, after.at? position = some later ∧ KeptAs node later
  /-- Nothing is new but a chain of bare containers that ends before the path does. -/
  added : after = before ∨ ∃ front name reach next back,
    front ++ .member name :: reach ++ next :: back = descriptor.position ∧
      after.at? (front ++ [.member name]) = some (chain reach) ∧
      ∀ position, before.at? position = none → (after.at? position).isSome →
        front ++ [.member name] <+: position

/-- A tree that grows by the leaf at a position has the field placed. -/
theorem placed_of_grows
    {descriptor : FieldDescriptor}
    {leaf before after : TypeTree}
    (resolves : descriptor.leaf = .ok leaf)
    (grows : Grows leaf descriptor.position before after) :
    Placed descriptor before after where
  leaf := ⟨leaf, resolves, grows.at?_position⟩
  kept := grows.kept
  added := by
    intro front name absent isThere
    rcases FieldDescriptor.below_or_above_or_apart (front ++ [.member name])
        descriptor.position with
      ⟨below, isBelow⟩ | ⟨step, back, split⟩ | ⟨notAbove, notBelow⟩
    · rcases List.eq_nil_or_concat below with rfl | ⟨inner, last, rfl⟩
      · rw [← isBelow, List.append_nil]
      · have sameLast : last = .member name := by
          have ends := congrArg List.getLast? isBelow
          simpa using ends
        rw [← isBelow, grows.at?_append, ← FieldDescriptor.outline_leaf descriptor leaf resolves,
          List.concat_eq_append, sameLast, at?_outline_append_member] at isThere
        cases isThere
    · exact ⟨step :: back, split⟩
    · rw [grows.at?_of_apart _ notAbove notBelow, absent] at isThere
      cases isThere

/-- Nothing stood below a position that there was not. -/
theorem at?_eq_none_of_isPrefix
    {tree : TypeTree}
    {front position : List Step}
    (absent : tree.at? front = none)
    (isPrefix : front <+: position) :
    tree.at? position = none := by
  obtain ⟨back, rfl⟩ := isPrefix
  rw [at?_append, absent]
  rfl

/-- A tree with something left over has the field abandoned. -/
theorem abandoned_of_leftover
    {descriptor : FieldDescriptor}
    {before after : TypeTree}
    (leftover : Leftover descriptor.position before after) :
    Abandoned descriptor before after := by
  cases leftover with
  | nothing => exact ⟨fun position node found => ⟨node, found, .refl node⟩, .inl rfl⟩
  | @containers front reach back name next _ parent split isParent absent grows =>
      constructor
      · intro position node found
        refine grows.kept position node found fun isPrefix => ?_
        rw [at?_eq_none_of_isPrefix absent isPrefix] at found
        cases found
      · refine .inr ⟨front, name, reach, next, back, split, grows.at?_position, ?_⟩
        intro position isNew isThere
        rcases FieldDescriptor.below_or_above_or_apart position (front ++ [.member name]) with
          ⟨below, rfl⟩ | ⟨step, above, isAbove⟩ | ⟨notAbove, notBelow⟩
        · exact List.prefix_append _ _
        · -- Above the chain there is the parent, so nothing is new.
          have onWay : position <+: front := by
            rcases List.prefix_concat_iff.mp ⟨step :: above, isAbove⟩ with same | onWay
            · simp [same] at isAbove
            · exact onWay
          rw [at?_eq_none_of_isPrefix isNew onWay] at isParent
          cases isParent
        · rw [grows.at?_of_apart position notAbove notBelow, isNew] at isThere
          cases isThere

/-- An insertion touches its own path alone, whatever the tree.  Made again after it has
completed it completes, and after a refusal it is refused for the same fault; either way it
changes nothing more. -/
theorem insertion_touches_only_its_path
    (descriptor : FieldDescriptor)
    (tree : TypeTree) :
    (∀ grown, (insert descriptor tree).result = .ok grown →
      Placed descriptor tree grown ∧ (insert descriptor grown).result = .ok grown) ∧
    (∀ fault, (insert descriptor tree).fault = some fault →
      Abandoned descriptor tree (insert descriptor tree).tree ∧
        (insert descriptor (insert descriptor tree).tree).tree =
          (insert descriptor tree).tree ∧
        (insert descriptor (insert descriptor tree).tree).fault = some fault) := by
  have again := insertAt_again descriptor descriptor.segments tree
  constructor
  · intro grown completes
    obtain ⟨leaf, resolves, grows⟩ := (insert_eq_ok_iff descriptor tree grown).mp completes
    obtain ⟨completed, rfl⟩ := (Growth.result_eq_ok_iff _ grown).mp completes
    exact ⟨placed_of_grows resolves grows,
      (Growth.result_eq_ok_iff _ _).mpr ⟨again.2.trans completed, again.1⟩⟩
  · intro fault refused
    refine ⟨abandoned_of_leftover ?_, again.1, again.2.trans refused⟩
    exact leftover_of_insertAt_fault descriptor descriptor.segments tree fault refused

/-- A field whose path ends in a wildcard, which names nothing. -/
def strayField : FieldDescriptor :=
  { path := "groups.*.items.*", declaredType := "String", kind := .request }

/-- A field that ends one step before the stray one. -/
def itemsField : FieldDescriptor :=
  { path := "groups.*.items", declaredType := "String", kind := .request }

/-- What the insertion of the stray field leaves behind in an empty tree. -/
def abandonedTree : TypeTree :=
  object [("groups", array (object [("items", emptyObject)] .blank) .blank)] .blank

/-- The tree with the field in the place of what was left behind. -/
def itemsTree : TypeTree :=
  object [("groups", array (object [("items", scalar .string .blank)] .blank) .blank)] .blank

theorem strayField_and_itemsField_touch_their_paths :
    ((insert strayField emptyObject).fault = some (.trailingWildcard "groups.*.items.*") ∧
        Abandoned strayField emptyObject abandonedTree) ∧
      (insert itemsField abandonedTree).result = .ok itemsTree ∧
        Placed itemsField abandonedTree itemsTree := by
  have refused : (insert strayField emptyObject).fault =
      some (.trailingWildcard "groups.*.items.*") := rfl
  have left : (insert strayField emptyObject).tree = abandonedTree := rfl
  have leaf : itemsField.leaf = .ok (scalar .string .blank) :=
    (FieldDescriptor.leaf_eq_ok_iff _ _).mpr ⟨⟨0, .string⟩, rfl, rfl⟩
  have path : itemsField.segments = ["groups", "*", "items"] := rfl
  have completed : (insert itemsField abandonedTree).result = .ok itemsTree := by
    simp [insert, insertAt, attach, path, leaf, wildcard, property?, setProperty, Growth.lift,
      Growth.result, abandonedTree, itemsTree, emptyObject]
  refine ⟨⟨refused, ?_⟩, completed, ?_⟩
  · rw [← left]
    exact ((insertion_touches_only_its_path strayField emptyObject).2 _ refused).1
  · exact ((insertion_touches_only_its_path itemsField abandonedTree).1 _ completed).1

end TypeTree
end ProtocolTypes
