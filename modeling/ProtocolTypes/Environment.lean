/-!
# The environment

The variables that a program is started with.
-/

namespace ProtocolTypes

/-- The variables of the environment, each with its text. -/
structure Environment where
  settings : List (String × String) := []

namespace Environment

/-- The text of a variable, if it is set. -/
def value? (environment : Environment) (name : String) : Option String :=
  environment.settings.lookup name

/-- The text of a variable that is set to something. -/
def nonempty? (environment : Environment) (name : String) : Option String :=
  (environment.value? name).filter fun text => !text.isEmpty

theorem nonempty?_eq_filter (environment : Environment) (name : String) :
    environment.nonempty? name = (environment.value? name).filter (· ≠ "") := by
  have sameTexts (text : String) : (!text.isEmpty) = decide (text ≠ "") := by
    rw [Bool.eq_iff_iff]
    simp
  simp only [nonempty?, sameTexts]

end Environment
end ProtocolTypes
