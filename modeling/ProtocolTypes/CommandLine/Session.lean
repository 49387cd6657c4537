import ProtocolTypes.Accident
import ProtocolTypes.Console.Basic
import ProtocolTypes.Document.Load
import ProtocolTypes.Linter.Run
import ProtocolTypes.Protocol.Extract
import ProtocolTypes.Settings.Resolve
import ProtocolTypes.Storage.Write

/-!
# Sessions

A session is a run of a command.  It finds what surrounds it as it stands at the
beginning, and leaves a transcript: what it has printed, the files as they are now, and
whom it has asked.  It may be interrupted by a reported failure or by an accident; what
the transcript has by then, it keeps.
-/

namespace ProtocolTypes

/-- What a session finds. -/
structure Surroundings where
  storage : Storage := {}
  environment : Environment := {}
  standardInput : String := ""
  /-- The replies of web servers to the requests, in turn. -/
  replies : List WebReply := []
  /-- What becomes of the linter if it is started. -/
  linter : LinterOutcome := .missing
  /-- The name of the system. -/
  system : String := "Linux"
  /-- The moment, as it stands in the names of files. -/
  moment : String := ""
  /-- Whether standard output is a terminal. -/
  isTerminal : Bool := false

/-- What a session leaves. -/
structure Transcript where
  standardOutput : String := ""
  standardError : String := ""
  storage : Storage := {}
  requests : List WebRequest := []
  calls : List LinterCall := []

/-- A part of a session. -/
abbrev Session := ExceptT (Interruption Failure) (StateM Transcript)

namespace Session

variable {α Cause : Type}

/-- Goes on with a value, or is interrupted by an accident. -/
def orBreak : Except Accident α → Session α
  | .ok value => pure value
  | .error accident => throw (.accident accident)

/-- Goes on with a value, or is interrupted. -/
def orInterrupt (report : Cause → Failure) : Except (Interruption Cause) α → Session α
  | .ok value => pure value
  | .error cause => throw (cause.map report)

/-- Goes on with a value, or is interrupted by a reported failure. -/
def orFail (report : Cause → Failure) : Except Cause α → Session α
  | .ok value => pure value
  | .error cause => throw (.reported (report cause))

/-- The end of a part of a session, which does not interrupt what follows. -/
def outcome (session : Session α) : Session (Except (Interruption Failure) α) :=
  ExceptT.mk (session.run >>= fun result => pure (.ok result))

/-- Makes a directory and all those above it that are missing. -/
def makeDirectories (path : FilePath) : Session Unit := do
  let (storage, failed) := (← get).storage.makeDirectories path
  modify fun transcript => { transcript with storage := storage }
  match failed with
  | some accident => throw (.accident accident)
  | none => return

/-- Puts a text into a file of an existing directory. -/
def overwrite (path : FilePath) (text : String) : Session Unit := do
  let storage ← orBreak ((← get).storage.overwrite path text)
  modify fun transcript => { transcript with storage := storage }

variable [StandIns]

/-- Prints on standard output; what cannot be encoded is not begun with. -/
def print (text : String) : Session Unit :=
  if Text.isEncodable text then
    modify fun transcript =>
      { transcript with standardOutput := transcript.standardOutput ++ text }
  else throw (.accident .unencodable)

/-- Prints on standard error, where surrogates are spelled. -/
def printError (text : String) : Session Unit :=
  modify fun transcript =>
    { transcript with standardError := transcript.standardError ++ Text.escaped text }

/-- Shows a diagnostic. -/
def say (console : Console) (kind : Diagnostic) (message : String) : Session Unit :=
  orBreak (console.diagnostic kind message) >>= printError

/-- Shows records. -/
def note (console : Console) (records : List LogRecord) : Session Unit :=
  printError (console.logText records)

/-- The settings of the session. -/
def settings (surroundings : Surroundings) (choice : SettingsChoice) : Session Settings :=
  orInterrupt SettingsFault.report
    (Settings.resolve surroundings.storage surroundings.environment choice)

/-- The protocol from an origin. -/
def protocol
    (surroundings : Surroundings)
    (console : Console)
    (origin : Origin)
    (settings : Settings) :
    Session Protocol := do
  let loading := Document.load origin settings
    { storage := surroundings.storage
      standardInput := surroundings.standardInput
      replies := surroundings.replies }
  modify fun transcript =>
    { transcript with requests := transcript.requests ++ loading.requests }
  note console loading.records
  let entries ← orInterrupt LoadFault.report loading.result
  let extraction ← orInterrupt LoadFault.report (Protocol.ofValue (.map entries))
  note console extraction.records
  return extraction.protocol

/-- The source of the module after the lint pass. -/
def lint
    (surroundings : Surroundings)
    (console : Console)
    (settings : Settings)
    (source : String) :
    Session LintResult := do
  modify fun transcript =>
    { transcript with
      calls := transcript.calls ++ Linter.calls settings.lint settings.outputFile source }
  note console (Linter.records settings.lint settings.outputFile source)
  orInterrupt LintFault.report (Linter.lint settings.lint source surroundings.linter)

/-- Writes a text to a file, the path of which is the result. -/
def write (path : FilePath) (text : String) : Session FilePath := do
  let (storage, result) := (← get).storage.write path text
  modify fun transcript => { transcript with storage := storage }
  orBreak result

/-- Goes on after a part of the session; a failure that it reports is shown and ends the
session with the failure's exit code. -/
def conclude
    (console : Console)
    (part : Session α)
    (next : α → Session Int) :
    Session Int := do
  match ← outcome part with
  | .ok value => next value
  | .error (.reported failure) => do
    say console .error failure.text
    return failure.exitCode
  | .error (.accident accident) => throw (.accident accident)

end Session
end ProtocolTypes
