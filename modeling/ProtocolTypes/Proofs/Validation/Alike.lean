import Mathlib.Data.List.Forall2
import ProtocolTypes.Validation.Record

/-!
# Checks that go alike

Two checks go alike when both accept, with related values, or both refuse.  The relation
goes through every way of putting checks together, so that two runs of one rule can be
compared part by part.
-/

namespace ProtocolTypes
namespace Checked

open scoped Relator

variable {α β : Type} {R : α → α → Prop} {S : β → β → Prop}

/-- Both checks accept, with related values, or both refuse. -/
inductive Alike (R : α → α → Prop) : Checked α → Checked α → Prop
  | valid {first second : α} (related : R first second) : Alike R (valid first) (valid second)
  | invalid (first second : List Issue) : Alike R (invalid first) (invalid second)

theorem Alike.refl (reflexive : ∀ value, R value value) (check : Checked α) :
    check.Alike R check := by
  cases check with
  | valid value => exact .valid (reflexive value)
  | invalid issues => exact .invalid issues issues

theorem Alike.map
    {change changeToo : α → β}
    {first second : Checked α}
    (changes : (R ⇒ S) change changeToo)
    (alike : first.Alike R second) :
    Alike S (change <$> first) (changeToo <$> second) := by
  cases alike with
  | valid related => exact .valid (changes related)
  | invalid first second => exact .invalid first second

theorem Alike.seq
    {change changeToo : Checked (α → β)}
    {first second : Checked α}
    (changes : change.Alike (R ⇒ S) changeToo)
    (alike : first.Alike R second) :
    Alike S (change <*> first) (changeToo <*> second) := by
  cases changes with
  | valid related =>
      cases alike with
      | valid values => exact .valid (related values)
      | invalid first second => exact .invalid first second
  | invalid =>
      cases alike with
      | valid values => exact .invalid _ _
      | invalid first second => exact .invalid _ _

theorem Alike.under
    {first second : Checked α}
    (alike : first.Alike R second)
    (step stepToo : LocationStep) :
    (first.under step).Alike R (second.under stepToo) := by
  cases alike with
  | valid related => exact .valid related
  | invalid => exact .invalid _ _

/-- Lists of checks that go alike up to a view go alike up to the view of every value. -/
theorem Alike.sequence
    {view : α → β}
    {first second : List (Checked α)}
    (each : List.Forall₂ (Alike (InvImage Eq view)) first second) :
    Alike (InvImage Eq (List.map view)) (sequence first) (sequence second) := by
  induction each with
  | nil => exact .valid rfl
  | cons head _ inductionHypothesis =>
      have prepends : (InvImage Eq view ⇒ InvImage Eq (List.map view) ⇒
          InvImage Eq (List.map view)) List.cons List.cons := by
        intro first second same rest others sameRest
        rw [InvImage, List.map_cons, List.map_cons, same, sameRest]
      exact (head.map prepends).seq inductionHypothesis

/-- Checks of whose values nothing is asked go alike when they accept alike. -/
theorem alike_of_exists_iff
    (first second : Checked α)
    (accept : (∃ value, first = valid value) ↔ ∃ value, second = valid value) :
    first.Alike (fun _ _ => True) second := by
  cases first with
  | valid value =>
      obtain ⟨other, rfl⟩ := accept.mp ⟨value, rfl⟩
      exact .valid trivial
  | invalid issues =>
      cases second with
      | valid value => exact absurd (accept.mpr ⟨value, rfl⟩) (by simp)
      | invalid others => exact .invalid issues others

theorem exists_sequence_iff (checks : List (Checked α)) :
    (∃ values, sequence checks = valid values) ↔
      ∀ check ∈ checks, ∃ value, check = valid value := by
  induction checks with
  | nil => simp [sequence]
  | cons check rest inductionHypothesis =>
      rw [List.forall_mem_cons, ← inductionHypothesis]
      cases check with
      | valid value => cases tail : sequence rest <;> simp [sequence, apply, map, tail]
      | invalid issues => cases tail : sequence rest <;> simp [sequence, apply, map, tail]

end Checked

namespace Rule

variable {α β : Type}

/-- The rule takes no notice of a change: it makes the same of a value before and after, up
to the relation. -/
def Ignores (rule : Rule α) (R : α → α → Prop) (changed : Value → Value → Prop) : Prop :=
  ∀ before after, changed before after → (rule before).Alike R (rule after)

/-- A list in which one item has changed. -/
inductive ItemChanged (changed : Value → Value → Prop) : Value → Value → Prop
  | item (front back : List Value) {before after : Value} (change : changed before after) :
      ItemChanged changed (.list (front ++ before :: back)) (.list (front ++ after :: back))

theorem Ignores.listOf
    {rule : Rule α}
    {view : α → β}
    {changed : Value → Value → Prop}
    (ignores : rule.Ignores (InvImage Eq view) changed) :
    (listOf rule).Ignores (InvImage Eq (List.map view)) (ItemChanged changed) := by
  rintro _ _ ⟨front, back, change⟩
  have same (items : List Value) :
      List.Forall₂ (fun before after => (rule before).Alike (InvImage Eq view) (rule after))
        items items :=
    List.forall₂_same.mpr fun item _ => .refl (fun value => Eq.refl (view value)) (rule item)
  have items := List.rel_append (same front) (.cons (ignores _ _ change) (same back))
  obtain ⟨sameLength, each⟩ := List.forall₂_iff_get.mp items
  refine Checked.Alike.sequence (List.forall₂_iff_get.mpr ⟨by simp, ?_⟩)
  intro position inBefore inAfter
  simp only [List.get_eq_getElem, List.getElem_mapIdx]
  exact (each position (by simpa using inBefore) (by simpa using inAfter)).under _ _

end Rule
end ProtocolTypes
