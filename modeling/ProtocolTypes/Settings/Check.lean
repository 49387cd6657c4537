import ProtocolTypes.Settings.Basic
import ProtocolTypes.Validation.Record

/-!
# Checking settings

The rules by which a document value is taken as settings.  A field that is not given
has its default, and entries of no field are dropped.
-/

namespace ProtocolTypes

namespace LintSettings

/-- The settings where nothing is given. -/
def standard : LintSettings := {}

/-- The rule for the linter's settings. -/
def rule : Rule LintSettings :=
  Record.rule "LintConfig" fun entries =>
    LintSettings.mk
      <$> Record.withDefault entries (.same "enabled") Rule.boolean standard.enabled
      <*> Record.withDefault entries (.same "command") (Rule.listOf Rule.text) standard.command
      <*> Record.withDefault entries (.same "timeout") Rule.integer standard.timeout

end LintSettings

namespace Settings

/-- The entry keys of the fields. -/
def commitKey : String := "commit"

@[inherit_doc commitKey]
def tokenKey : String := "github_token"

@[inherit_doc commitKey]
def outputKey : String := "output_file"

@[inherit_doc LintSettings.standard]
def standard : Settings := {}

/-- The rule for settings. -/
def rule : Rule Settings :=
  Record.rule "GeneratorConfig" fun entries =>
    Settings.mk
      <$> Record.withDefault entries (.same commitKey) Rule.text standard.commit
      <*> Record.withDefault entries (.same "repository") Rule.text standard.repository
      <*> Record.withDefault entries (.same tokenKey) (Rule.optional Rule.text) standard.token
      <*> Record.withDefault entries (.same outputKey) Rule.text standard.outputFile
      <*> Record.withDefault entries (.same "timeout") Rule.number standard.timeout
      <*> Record.withDefault entries (.same "strict") Rule.boolean standard.strict
      <*> Record.withDefault entries (.same "overrides") Rule.boolean standard.overloads
      <*> Record.withDefault entries (.same "lint") LintSettings.rule standard.lint

end Settings
end ProtocolTypes
