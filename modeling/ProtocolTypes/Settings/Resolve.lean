import ProtocolTypes.Environment
import ProtocolTypes.Settings.Project

/-!
# Settings from all sides

What is asked for on the command line comes first, then the environment, then the
project file, then the defaults.  The environment takes the place of entries of the
project file before they are checked; the command line changes settings that have
passed the check.
-/

namespace ProtocolTypes

/-- What the command line may ask for; what it does not name stays as it is. -/
structure SettingsChoice where
  commit : Option String := none
  outputFile : Option String := none
  lint : Option Bool := none
  strict : Option Bool := none
  overloads : Option Bool := none

namespace SettingsChoice

/-- The settings with the choices made. -/
def apply (choice : SettingsChoice) (settings : Settings) : Settings :=
  { settings with
    commit := choice.commit.getD settings.commit
    outputFile := choice.outputFile.getD settings.outputFile
    lint := { settings.lint with enabled := choice.lint.getD settings.lint.enabled }
    strict := choice.strict.getD settings.strict
    overloads := choice.overloads.getD settings.overloads }

@[simp]
theorem apply_none (settings : Settings) :
    ({} : SettingsChoice).apply settings = settings := rfl

end SettingsChoice

namespace Settings

/-- The entries that the environment gives; a commit may be named by nothing. -/
def environmentEntries (environment : Environment) : List (String × String) :=
  let entry (key : String) : Option String → List (String × String)
    | some text => [(key, text)]
    | none => []
  entry commitKey (environment.value? "GH_COMMIT") ++
    entry tokenKey (environment.nonempty? "GH_TOKEN") ++
    entry outputKey (environment.nonempty? "OBSGEN_OUTPUT")

/-- The entries with those of the environment in their place. -/
def withEnvironment (environment : Environment) (entries : Document.Entries) :
    Document.Entries :=
  (environmentEntries environment).foldl
    (fun entries (key, text) => Value.setEntry key (.str text) entries) entries

/-- The settings that entries stand for. -/
def ofEntries (entries : Document.Entries) : Except SettingsFault Settings :=
  match rule (.map entries) with
  | .valid settings => .ok settings
  | .invalid issues => .error (.refused issues)

/-- The settings of a run in the working directory. -/
def resolve
    [StandIns]
    (storage : Storage)
    (environment : Environment)
    (choice : SettingsChoice) :
    Except (Interruption SettingsFault) Settings := do
  let project ← ProjectFile.read? storage storage.workingPath
  let settings ←
    (ofEntries (withEnvironment environment (project.getD []))).mapError .reported
  return choice.apply settings

end Settings
end ProtocolTypes
