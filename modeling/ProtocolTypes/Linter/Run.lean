import ProtocolTypes.Json.Read
import ProtocolTypes.Linter.Report
import ProtocolTypes.Log
import ProtocolTypes.Settings.Basic
import ProtocolTypes.Text.Blank

/-!
# The lint pass

The linter is started with the source as its input and asked for a report.  It may be
missing, take too long, give up, or print no JSON; each is a fault of the pass.  That it
cannot be started for another reason, be given the source, or be understood, is an accident.
-/

namespace ProtocolTypes

/-- What becomes of a linter that is started. -/
inductive LinterOutcome
  | missing
  /-- It is there and cannot be started. -/
  | refused (accident : Accident)
  | timedOut
  /-- It ends, and what it has printed is no text. -/
  | garbled
  | finished (exitCode : Int) (output errors : String)
  deriving DecidableEq, Repr

namespace LinterOutcome

/-- Whether the linter is started. -/
def isStarted : LinterOutcome → Bool
  | missing => false
  | refused _ => false
  | _ => true

end LinterOutcome

/-- How a linter is started. -/
structure LinterCall where
  words : List String
  input : String
  timeout : Int
  deriving DecidableEq, Repr

/-- Why the lint pass failed. -/
inductive LintFault
  | notFound (program : String)
  | timedOut (seconds : Int)
  /-- The linter gave up, and said this at last. -/
  | gaveUp (exitCode : Int) (lastLines : String)
  | unreadable (fault : Json.Fault)
  deriving DecidableEq, Repr

namespace LintFault

/-- The report of a fault. -/
def report : LintFault → Failure
  | notFound program => failed ("Linter not found: " ++ program)
  | timedOut seconds => failed ("Linter timed out after " ++ toString seconds ++ " seconds")
  | gaveUp exitCode lastLines =>
    failed ("Linter failed with exit code " ++ toString exitCode ++ ":\n" ++ lastLines)
  | unreadable fault => failed ("Unreadable linter report: " ++ fault.message)
where
  /-- The failure with that wording. -/
  failed (wording : String) : Failure := { kind := .lint, wording := wording }

@[simp]
theorem kind_report (fault : LintFault) : fault.report.kind = .lint := by
  cases fault <;> rfl

end LintFault

namespace Linter

/-- The result of the lint pass or of a part of it. -/
abbrev Linted := Except (Interruption LintFault) LintResult

/-- The words that start the linter for a source that is meant for that file. -/
def words (settings : LintSettings) (file : String) : List String :=
  settings.command ++
    ["--stdin", "--stdin-filename", file, "--fix-dry-run", "--format", "json"]

/-- The greatest number of lines that are shown of a linter that gave up. -/
def shownLines : Nat := 10

/-- The last lines of a text. -/
def lastLines (text : String) : String :=
  let lines := Text.splitLines (Text.trim text)
  Text.joinLines (lines.drop (lines.length - shownLines))

/-- Whether a linter ends with that code after its work: zero where no problem is left,
one where some are. -/
def isRegular (exitCode : Int) : Bool := exitCode == 0 || exitCode == 1

variable [StandIns]

/-- The result that the linter's output stands for; no output is an empty report. -/
def resultOfOutput (source output : String) : Linted :=
  match Json.read (if output.isEmpty then "[]" else output) with
  | .ok report => (LintReport.result source report).mapError .accident
  | .error (.fault fault) => .error (.reported (.unreadable fault))
  | .error .hugeInteger => .error (.accident .badValue)

/-- The result of a linter that has taken the source. -/
def resultOfTaken (settings : LintSettings) (source : String) : LinterOutcome → Linted
  | .missing =>
    match settings.command with
    | program :: _ => .error (.reported (.notFound program))
    | [] => .error (.accident .missingItem)
  | .refused accident => .error (.accident accident)
  | .timedOut => .error (.reported (.timedOut settings.timeout))
  | .garbled => .error (.accident .badEncoding)
  | .finished exitCode output errors =>
    if isRegular exitCode then resultOfOutput source output
    else .error (.reported (.gaveUp exitCode (lastLines errors)))

/-- The result of a linter that was to be started for a source. -/
def resultOf (settings : LintSettings) (source : String) (outcome : LinterOutcome) : Linted :=
  if outcome.isStarted && !Text.isEncodable source then .error (.accident .unencodable)
  else resultOfTaken settings source outcome

/-- The lint pass over a source, with what becomes of the linter if it is started. -/
def lint
    (settings : LintSettings)
    (source : String)
    (outcome : LinterOutcome) :
    Linted :=
  if settings.enabled then resultOf settings source outcome
  else .ok (.clean source)

omit [StandIns]

/-- How the linter is started in a pass, if it is. -/
def calls (settings : LintSettings) (file source : String) : List LinterCall :=
  if settings.enabled then
    [{ words := words settings file, input := source, timeout := settings.timeout }]
  else []

/-- What is noted in a pass. -/
def records (settings : LintSettings) (file source : String) : List LogRecord :=
  (calls settings file source).map fun call => .linting call.words

end Linter
end ProtocolTypes
