import ProtocolTypes.CommandLine.Invocation
import ProtocolTypes.CommandLine.Session
import ProtocolTypes.Module.Source

/-!
# Generating the module

The module is made of the protocol, passed through the linter, and printed or written.
The exit code tells whether entities were left out, or else whether the linter has left
problems.
-/

namespace ProtocolTypes
namespace CommandLine

/-- What there is to tell of a module that was printed or written. -/
structure Delivery where
  settings : Settings
  failures : List EntityFailure
  problems : List LintProblem

namespace Delivery

/-- The exit code where entities were left out. -/
def skippedCode : Int := FailureKind.schema.exitCode

/-- The exit code where the linter has left problems. -/
def problemCode : Int := FailureKind.lint.exitCode

/-- The exit code of a delivery. -/
def exitCode (delivery : Delivery) : Int :=
  if !delivery.failures.isEmpty then skippedCode
  else if !delivery.problems.isEmpty then problemCode
  else 0

/-- How the number of entities that were left out is told. -/
def skippedText (count : Nat) : String :=
  toString count ++ " entities could not be compiled"

/-- Tells what is left to do. -/
def tell [StandIns] (console : Console) (delivery : Delivery) : Session Int := do
  if !delivery.problems.isEmpty then
    Session.say console .error
      (LintReport.text delivery.settings.outputFile delivery.problems)
  if !delivery.failures.isEmpty then
    Session.say console .error (skippedText delivery.failures.length)
  return delivery.exitCode

end Delivery

/-- How the origin of the protocol is told. -/
def originText (source : Option String) (settings : Settings) : String :=
  match source.filter fun text => !text.isEmpty with
  | some text => text
  | none =>
    settings.repository ++ "@" ++
      (if settings.commit.isEmpty then Settings.latest else settings.commit)

/-- How the size of the protocol is told. -/
def sizeText (protocol : Protocol) : String :=
  "Compiling " ++ toString protocol.requests.length ++ " requests and " ++
    toString protocol.events.length ++ " events"

/-- The mode that settings ask for. -/
def modeOf (settings : Settings) : GenerationMode :=
  if settings.strict then .strict else .keepGoing

/-- The text that the linter's result has for the module. -/
def linted (result : LintResult) : Session String :=
  match result.output with
  | .str text => pure text
  | _ => throw (.accident .missingMember)

variable [StandIns]

/-- Prints the module or writes it. -/
def deliver
    (console : Console)
    (settings : Settings)
    (toStandardOutput : Bool)
    (text : String) :
    Session Unit := do
  if toStandardOutput then Session.print (Console.source text)
  else
    let path ← Session.write (FilePath.ofText settings.outputFile) text
    Session.say console .success ("Wrote " ++ path.text)

omit [StandIns] in
/-- A module that is ready to be printed or written. -/
structure Draft extends Delivery where
  text : String

/-- Makes the module as far as its text. -/
def draft
    (surroundings : Surroundings)
    (console : Console)
    (choices : GenerateChoices) :
    Session Draft := do
  let settings ← Session.settings surroundings choices.settingsChoice
  Session.say console .debugging ("Generating from " ++ originText choices.source settings)
  let origin := Origin.ofText? choices.source
  let protocol ← Session.protocol surroundings console origin settings
  Session.say console .information (sizeText protocol)
  Session.note console (protocol.generationRecords (modeOf settings))
  let generated ←
    Session.orInterrupt SchemaFailure.report
      (protocol.generate (modeOf settings) settings.overloads)
  for failure in generated.failures do
    Session.say console .warning ("Skipped " ++ failure.failure.report.text)
  let result ← Session.lint surroundings console settings generated.source
  let text ← linted result
  return {
    settings := settings
    failures := generated.failures
    problems := result.problems
    text := text }

/-- Makes the module and delivers it. -/
def make
    (surroundings : Surroundings)
    (console : Console)
    (choices : GenerateChoices) :
    Session Delivery := do
  let draft ← draft surroundings console choices
  deliver console draft.settings choices.toStandardOutput draft.text
  return draft.toDelivery

/-- Generates the module, with the exit code as the result. -/
def generate
    (surroundings : Surroundings)
    (console : Console)
    (choices : GenerateChoices) :
    Session Int :=
  Session.conclude console (make surroundings console choices) (Delivery.tell console)

end CommandLine
end ProtocolTypes
