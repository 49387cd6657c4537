import ProtocolTypes.Proofs.TypeTree.Growing

/-!
# What a grown tree holds

A tree that grew by one leaf, read off position by position.  At the end of the path and
below stands the leaf (`Grows.at?_append`), apart from the path nothing changed
(`Grows.at?_of_apart`), and on the way to it every node kept its outline, or is the
container that was made there, with at most one more name behind its old ones
(`Grows.at?_above`).
-/

namespace ProtocolTypes
namespace TypeTree

/-- The names after a step was taken: a new name goes last. -/
def withStep (names : List String) : Step → List String
  | .member name => if name ∈ names then names else names ++ [name]
  | .element => names

theorem withStep_nodup
    (names : List String)
    (distinct : names.Nodup)
    (step : Step) :
    (withStep names step).Nodup := by
  cases step with
  | element => exact distinct
  | member name =>
      simp only [withStep]
      split
      · exact distinct
      · next isNew => exact List.nodup_append.mpr ⟨distinct, by simp, by simp; grind⟩

theorem propertyNames_setProperty
    (name : String)
    (tree : TypeTree)
    (properties : List (String × TypeTree)) :
    propertyNames (setProperty name tree properties) =
      withStep (propertyNames properties) (.member name) := by
  simp only [propertyNames, withStep]
  induction properties with
  | nil => simp [setProperty]
  | cons property rest inductionHypothesis =>
      obtain ⟨other, old⟩ := property
      by_cases same : other = name
      · simp [setProperty, same]
      · simp only [setProperty, same, if_false, List.map_cons, inductionHypothesis,
          List.mem_cons, Ne.symm same, false_or]
        by_cases present : name ∈ rest.map Prod.fst <;> simp [present]

theorem outline_containerFor (step : Step) :
    (containerFor step).outline = containerFor step := by
  cases step <;> rfl

theorem names_containerFor (step : Step) : (containerFor step).names = [] := by
  cases step <;> rfl

/-- A container admits the step that it is made for. -/
theorem containerFor_admits (step : Step) : (containerFor step).Admits step := by
  cases step <;> trivial

/-- A container holds nothing below it but the element of an array. -/
theorem at?_containerFor_cons
    (next step : Step)
    (rest : List Step) :
    (containerFor next).at? (step :: rest) =
      if next = .element ∧ step = .element ∧ rest = [] then some emptyObject else none := by
  cases next with
  | member name => cases step <;> rfl
  | element =>
      cases step with
      | member name => rfl
      | element =>
          cases rest with
          | nil => rfl
          | cons second rest => cases second <;> rfl

/-- Going on from a container leads to the containers for the later steps. -/
theorem getD_at?_containerFor
    (next : Step)
    (rest front : List Step)
    (step : Step)
    (back : List Step)
    (split : front ++ step :: back = next :: rest)
    (spaced : Spaced (next :: rest)) :
    ((containerFor next).at? front).getD (containerFor step) = containerFor step := by
  cases front with
  | nil =>
      simp only [List.nil_append, List.cons.injEq] at split
      simp [split.1]
  | cons first front =>
      rw [at?_containerFor_cons]
      split
      · next holds =>
          obtain ⟨rfl, rfl, rfl⟩ := holds
          rw [← split] at spaced
          have named := ((spaced_cons_cons_iff _ _ _).mp spaced).2
          cases step with
          | element => exact absurd ⟨rfl, rfl⟩ named
          | member name => rfl
      · rfl

theorem child?_setProperty_self
    (name : String)
    (tree : TypeTree)
    (properties : List (String × TypeTree))
    (note : Note) :
    (object (setProperty name tree properties) note).child? (.member name) = some tree := by
  simp [child?]

theorem child?_setProperty_of_ne
    (name : String)
    (step : Step)
    (different : step ≠ .member name)
    (tree : TypeTree)
    (properties : List (String × TypeTree))
    (note : Note) :
    (object (setProperty name tree properties) note).child? step =
      (object properties note).child? step := by
  cases step with
  | element => rfl
  | member other =>
      have otherName : other ≠ name := fun same => different (by rw [same])
      exact property?_setProperty_of_ne name other otherName tree properties

namespace Grows

variable {leaf tree grown : TypeTree} {position : List Step}

theorem spaced (grows : Grows leaf position tree grown) : Spaced position :=
  (spaced_and_fits_of_grows grows).1

theorem fits (grows : Grows leaf position tree grown) : tree.Fits position :=
  (spaced_and_fits_of_grows grows).2

/-- The leaf stands at the end of the path. -/
theorem at?_append
    (grows : Grows leaf position tree grown)
    (below : List Step) :
    grown.at? (position ++ below) = leaf.at? below := by
  induction grows with
  | attach name properties note => simp [child?_setProperty_self]
  | element _ inductionHypothesis => simpa [child?] using inductionHypothesis
  | member _ inductionHypothesis =>
      simpa [child?_setProperty_self] using inductionHypothesis

/-- The leaf itself stands at the end of the path. -/
theorem at?_position (grows : Grows leaf position tree grown) :
    grown.at? position = some leaf := by
  simpa using grows.at?_append []

/-- Apart from the path nothing changed. -/
theorem at?_of_apart
    (grows : Grows leaf position tree grown)
    (other : List Step)
    (notAbove : ¬other <+: position)
    (notBelow : ¬position <+: other) :
    grown.at? other = tree.at? other := by
  induction grows generalizing other with
  | attach name properties note =>
      cases other with
      | nil => simp at notAbove
      | cons step rest =>
          have different : step ≠ .member name := by
            rintro rfl
            simp at notBelow
          simp only [at?_cons, child?_setProperty_of_ne name step different]
  | element grows inductionHypothesis =>
      cases other with
      | nil => simp at notAbove
      | cons step rest =>
          cases step with
          | member name => rfl
          | element =>
              simp only [List.cons_prefix_cons, true_and] at notAbove notBelow
              exact inductionHypothesis rest notAbove notBelow
  | @member name next later properties note inner grows inductionHypothesis =>
      cases other with
      | nil => simp at notAbove
      | cons step rest =>
          by_cases same : step = .member name
          · subst same
            simp only [List.cons_prefix_cons, true_and] at notAbove notBelow
            have below := inductionHypothesis rest notAbove notBelow
            simp only [at?_cons, child?_setProperty_self, Option.bind_some, below]
            cases isChild : property? name properties with
            | some child => simp [child?, isChild]
            | none =>
                cases rest with
                | nil => simp at notAbove
                | cons second rest =>
                    simp only [child?, isChild, Option.getD_none, Option.bind_none,
                      at?_containerFor_cons]
                    rw [if_neg]
                    rintro ⟨rfl, rfl, rfl⟩
                    simp at notAbove
          · simp only [at?_cons, child?_setProperty_of_ne name step same]

/-- On the way to the leaf every node kept its outline, or is the container that was made
there; of its names at most one is new, and it is the last. -/
theorem at?_above
    (grows : Grows leaf position tree grown)
    (front : List Step)
    (step : Step)
    (back : List Step)
    (split : front ++ step :: back = position) :
    ∃ node, grown.at? front = some node ∧
      node.outline = ((tree.at? front).getD (containerFor step)).outline ∧
      node.names =
        withStep ((tree.at? front).getD (containerFor step)).names step := by
  induction grows generalizing front step back with
  | attach name properties note =>
      cases front with
      | cons first front => simp at split
      | nil =>
          simp only [List.nil_append, List.cons.injEq] at split
          obtain ⟨rfl, rfl⟩ := split
          exact ⟨_, rfl, rfl, propertyNames_setProperty name leaf properties⟩
  | @element next later properties note arrayNote inner grows inductionHypothesis =>
      cases front with
      | nil =>
          simp only [List.nil_append, List.cons.injEq] at split
          obtain ⟨rfl, rfl⟩ := split
          obtain ⟨node, found, sameOutline, _⟩ := inductionHypothesis [] next later rfl
          simp only [at?_nil, Option.some.injEq] at found
          subst found
          exact ⟨_, rfl, congrArg (fun element => array element arrayNote) sameOutline, rfl⟩
      | cons first front =>
          simp only [List.cons_append, List.cons.injEq] at split
          obtain ⟨rfl, split⟩ := split
          exact inductionHypothesis front step back split
  | @member name next later properties note inner grows inductionHypothesis =>
      cases front with
      | nil =>
          simp only [List.nil_append, List.cons.injEq] at split
          obtain ⟨rfl, rfl⟩ := split
          exact ⟨_, rfl, rfl, propertyNames_setProperty name inner properties⟩
      | cons first front =>
          simp only [List.cons_append, List.cons.injEq] at split
          obtain ⟨rfl, split⟩ := split
          obtain ⟨node, found, sameOutline, sameNames⟩ := inductionHypothesis front step back split
          refine ⟨node, by simpa [child?_setProperty_self] using found, ?_⟩
          cases isChild : property? name properties with
          | some child =>
              simp only [isChild, Option.getD_some] at sameOutline sameNames
              simpa [child?, isChild] using ⟨sameOutline, sameNames⟩
          | none =>
              simp only [isChild, Option.getD_none,
                getD_at?_containerFor next later front step back split grows.spaced]
                at sameOutline sameNames
              simpa [child?, isChild] using ⟨sameOutline, sameNames⟩

/-- A node on the way that was there keeps its outline. -/
theorem outline_above
    (grows : Grows leaf position tree grown)
    {front : List Step}
    {step : Step}
    {back : List Step}
    (split : front ++ step :: back = position)
    {node : TypeTree}
    (found : tree.at? front = some node) :
    ∃ later, grown.at? front = some later ∧ later.outline = node.outline := by
  obtain ⟨later, isThere, sameOutline, _⟩ := grows.at?_above front step back split
  exact ⟨later, isThere, by simpa [found] using sameOutline⟩

/-- The grown tree admits the path that it grew by. -/
theorem fits_grown (grows : Grows leaf position tree grown) : grown.Fits position := by
  intro front step back node split found
  obtain ⟨after, isAfter, sameOutline, _⟩ := grows.at?_above front step back split
  rw [found, Option.some.injEq] at isAfter
  rw [isAfter, ← admits_outline, sameOutline, admits_outline]
  cases wasThere : tree.at? front with
  | none => exact containerFor_admits step
  | some before => exact grows.fits front step back before split wasThere

end Grows
end TypeTree
end ProtocolTypes
