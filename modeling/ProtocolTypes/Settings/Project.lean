import ProtocolTypes.Document.Parse
import ProtocolTypes.Settings.Check
import ProtocolTypes.Storage.Basic

/-!
# The project file

A project may keep its settings in a file, a JSON map.  There need not be one.
-/

namespace ProtocolTypes

/-- Why settings could not be had. -/
inductive SettingsFault
  /-- The project file is not JSON. -/
  | invalidJson (path : FilePath) (fault : Json.Fault)
  /-- The project file holds something else than a map. -/
  | notAMap (path : FilePath)
  /-- The entries are no settings. -/
  | refused (issues : List Issue)

namespace SettingsFault

/-- The opening of what is said about a project file. -/
def opening (path : FilePath) : String :=
  "Invalid project config at " ++ path.text ++ ": "

/-- The report of a fault. -/
def report : SettingsFault → Failure
  | invalidJson path fault => failed (opening path ++ fault.message)
  | notAMap path => failed (opening path ++ "expected a JSON object")
  | refused issues => .refusal .settings "Invalid configuration" "GeneratorConfig" issues
where
  /-- The failure with that wording. -/
  failed (wording : String) : Failure := { kind := .settings, wording := wording }

@[simp]
theorem kind_report (fault : SettingsFault) : fault.report.kind = .settings := by
  cases fault <;> rfl

end SettingsFault

namespace ProjectFile

/-- The name of a project file. -/
def fileName : String := "obsgen.json"

/-- The project file of a directory. -/
def pathIn (directory : FilePath) : FilePath := directory.child fileName

variable [StandIns]

/-- The entries of a project file's text. -/
def entriesOf (path : FilePath) (text : String) :
    Except (Interruption SettingsFault) Document.Entries :=
  match Json.read text with
  | .ok (.map entries) => .ok entries
  | .ok _ => .error (.reported (.notAMap path))
  | .error (.fault fault) => .error (.reported (.invalidJson path fault))
  | .error .hugeInteger => .error (.accident .badValue)

/-- The entries of a directory's project file, if there is one. -/
def read? (storage : Storage) (directory : FilePath) :
    Except (Interruption SettingsFault) (Option Document.Entries) :=
  let path := pathIn directory
  match storage.readFile? path with
  | .error accident => .error (.accident accident)
  | .ok none => .ok none
  | .ok (some content) =>
    match Storage.textOf content with
    | .error accident => .error (.accident accident)
    | .ok text => (entriesOf path text).map some

end ProjectFile
end ProtocolTypes
