import Mathlib.Data.List.Forall2

/-!
# Results of steps

What the result of steps that may fail says about each of them, and what two lists that
correspond say about their elements.
-/

namespace ProtocolTypes

/-- Where two steps succeed one after the other, each of them does. -/
theorem exists_of_bind_eq_ok
    {Cause α β : Type}
    {first : Except Cause α}
    {next : α → Except Cause β}
    {value : β}
    (succeeds : first >>= next = .ok value) :
    ∃ middle, first = .ok middle ∧ next middle = .ok value := by
  cases first with
  | error cause => cases succeeds
  | ok middle => exact ⟨middle, rfl, succeeds⟩

/-- Steps one after the other fail where the first one does, or where it succeeds and the
second one fails. -/
theorem bind_eq_error_iff
    {Cause α β : Type}
    {first : Except Cause α}
    {next : α → Except Cause β}
    {cause : Cause} :
    first >>= next = .error cause ↔
      first = .error cause ∨ ∃ middle, first = .ok middle ∧ next middle = .error cause := by
  cases first with
  | error other => simp [bind, Except.bind]
  | ok middle => simp [bind, Except.bind]

/-- A list that is gone through stops at the first item that fails. -/
theorem mapM_eq_error_iff
    {Cause α β : Type}
    (step : α → Except Cause β)
    (items : List α)
    (cause : Cause) :
    items.mapM step = .error cause ↔
      ∃ before bad after, items = before ++ bad :: after ∧
        (∀ earlier ∈ before, ∀ other, step earlier ≠ .error other) ∧ step bad = .error cause := by
  constructor
  · intro fails
    induction items with
    | nil => cases fails
    | cons first rest inductionHypothesis =>
        rw [List.mapM_cons] at fails
        cases taken : step first with
        | error other =>
            rw [taken] at fails
            cases fails
            exact ⟨[], first, rest, rfl, by simp, taken⟩
        | ok value =>
            cases others : rest.mapM step with
            | ok values =>
                rw [taken, others] at fails
                cases fails
            | error other =>
                rw [taken, others] at fails
                cases fails
                obtain ⟨before, bad, after, rfl, fine, breaks⟩ := inductionHypothesis others
                refine ⟨first :: before, bad, after, rfl, ?_, breaks⟩
                exact List.forall_mem_cons.mpr ⟨by simp [taken], fine⟩
  · rintro ⟨before, bad, after, rfl, fine, breaks⟩
    induction before with
    | nil => rw [List.nil_append, List.mapM_cons, breaks]; rfl
    | cons first before inductionHypothesis =>
        obtain ⟨firstFine, fine⟩ := List.forall_mem_cons.mp fine
        rw [List.cons_append, List.mapM_cons, inductionHypothesis fine]
        cases taken : step first with
        | error other => exact absurd taken (firstFine other)
        | ok value => rfl

/-- A result that is there is the same whatever failures are told as. -/
theorem eq_ok_of_mapError_eq_ok
    {Cause Other α : Type}
    {change : Cause → Other}
    {result : Except Cause α}
    {value : α}
    (succeeds : result.mapError change = .ok value) :
    result = .ok value := by
  cases result with
  | error cause => cases succeeds
  | ok found =>
      cases succeeds
      rfl

theorem eq_ok_of_toOption
    {Cause α : Type}
    {result : Except Cause α}
    {value : α}
    (isSome : result.toOption = some value) :
    result = .ok value := by
  cases result with
  | ok found => rw [Option.some.inj isSome]
  | error cause => cases isSome

/-! ## Element by element -/

/-- Each element on the left is related to one on the right. -/
theorem exists_of_forall₂
    {α β : Type}
    {relation : α → β → Prop}
    {left : List α}
    {right : List β}
    (related : List.Forall₂ relation left right)
    (element : α)
    (isThere : element ∈ left) :
    ∃ other ∈ right, relation element other := by
  induction related with
  | nil => cases isThere
  | cons holds _ inductionHypothesis =>
      rcases List.mem_cons.mp isThere with rfl | later
      · exact ⟨_, by simp, holds⟩
      · obtain ⟨other, listed, holds⟩ := inductionHypothesis later
        exact ⟨other, by simp [listed], holds⟩

/-- Where all elements are mapped, each one has its image in its place. -/
theorem forall₂_of_mapM
    {α β : Type}
    (function : α → Option β)
    (elements : List α)
    (images : List β)
    (mapped : elements.mapM function = some images) :
    List.Forall₂ (fun element image => function element = some image) elements images := by
  induction elements generalizing images with
  | nil =>
      obtain rfl : [] = images := by simpa using mapped
      exact .nil
  | cons first rest inductionHypothesis =>
      simp only [List.mapM_cons, Option.pure_def, Option.bind_eq_bind, Option.bind_eq_some_iff,
        Option.some.injEq] at mapped
      obtain ⟨image, isImage, others, areOthers, rfl⟩ := mapped
      exact .cons isImage (inductionHypothesis others areOthers)

end ProtocolTypes
