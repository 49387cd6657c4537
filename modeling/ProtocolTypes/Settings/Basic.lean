import ProtocolTypes.Document.Value

/-!
# Settings

What can be chosen for a run: which release of the protocol is taken from where, how
the module is made, where it goes, and how the linter is started.
-/

namespace ProtocolTypes

/-- How the linter is started. -/
structure LintSettings where
  enabled : Bool := false
  /-- The program and its first arguments. -/
  command : List String := ["npx", "eslint"]
  /-- The seconds that the linter may take. -/
  timeout : Int := 120
  deriving DecidableEq, Repr

/-- The choices for a run. -/
structure Settings where
  /-- The commit, tag or branch to take the protocol from; nothing or `latest` means
  the latest release. -/
  commit : String := "master"
  /-- The owner and name of the repository. -/
  repository : String := "obsproject/obs-websocket"
  token : Option String := none
  outputFile : String := "src/types.ts"
  /-- The seconds that an answer from the network may take. -/
  timeout : Float := 30.0
  /-- Whether the first entity that fails ends the run. -/
  strict : Bool := true
  /-- Whether the module has the overloads. -/
  overloads : Bool := false
  lint : LintSettings := {}

namespace LintSettings

/-- The settings as a document value. -/
def toValue (settings : LintSettings) : Value :=
  .map
    [ (.str "enabled", .bool settings.enabled),
      (.str "command", .list (settings.command.map .str)),
      (.str "timeout", .int settings.timeout) ]

end LintSettings

namespace Settings

/-- The word for the latest release. -/
def latest : String := "latest"

/-- The commit that the settings name, unless they mean the latest release. -/
def namedCommit? (settings : Settings) : Option String :=
  if settings.commit.isEmpty || settings.commit == latest then none
  else some settings.commit

/-- The settings as a document value. -/
def toValue (settings : Settings) : Value :=
  .map
    [ (.str "commit", .str settings.commit),
      (.str "repository", .str settings.repository),
      (.str "github_token", (settings.token.map Value.str).getD .null),
      (.str "output_file", .str settings.outputFile),
      (.str "timeout", .float settings.timeout),
      (.str "strict", .bool settings.strict),
      (.str "overrides", .bool settings.overloads),
      (.str "lint", settings.lint.toValue) ]

end Settings
end ProtocolTypes
