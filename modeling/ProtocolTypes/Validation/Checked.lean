import ProtocolTypes.Validation.Issue

/-!
# Checked values

The result of a check: the value it accepts, or every issue it found, in order.
Two checks side by side report the issues of both.
-/

namespace ProtocolTypes

/-- An accepted value, or the issues of a refused one. -/
inductive Checked (α : Type)
  | valid (value : α)
  | invalid (issues : List Issue)

namespace Checked

variable {α β : Type}

/-- Changes the accepted value. -/
def map (change : α → β) : Checked α → Checked β
  | valid value => valid (change value)
  | invalid issues => invalid issues

/-- Applies one check's function to the other's value, with the issues of both. -/
def apply : Checked (α → β) → Checked α → Checked β
  | valid change, valid value => valid (change value)
  | valid _, invalid issues => invalid issues
  | invalid issues, valid _ => invalid issues
  | invalid first, invalid second => invalid (first ++ second)

/-- Goes on with the accepted value; the issues of a refused one are all there are. -/
def bind : Checked α → (α → Checked β) → Checked β
  | valid value, next => next value
  | invalid issues, _ => invalid issues

instance : Functor Checked := ⟨map, fun value => map fun _ => value⟩

instance : Applicative Checked where
  pure := valid
  seq change value := apply change (value ())

/-- The result of a check that found one problem. -/
def refuse (problem : Problem) : Checked α :=
  invalid [Issue.here problem]

/-- The same result seen from one step above. -/
def under (step : LocationStep) : Checked α → Checked α
  | valid value => valid value
  | invalid issues => invalid (issues.map (Issue.under step))

/-- The issues that were found. -/
def issues : Checked α → List Issue
  | valid _ => []
  | invalid issues => issues

/-- All values, or all issues of those that were refused. -/
def sequence : List (Checked α) → Checked (List α)
  | [] => valid []
  | first :: rest => apply (map List.cons first) (sequence rest)

/-- The result as an exception of issues. -/
def toExcept : Checked α → Except (List Issue) α
  | valid value => .ok value
  | invalid issues => .error issues

@[simp]
theorem map_valid (change : α → β) (value : α) :
    map change (valid value) = valid (change value) := rfl

@[simp]
theorem apply_valid (change : α → β) (value : α) :
    apply (valid change) (valid value) = valid (change value) := rfl

end Checked
end ProtocolTypes
