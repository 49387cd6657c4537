import ProtocolTypes.Accident
import ProtocolTypes.Document.Display
import ProtocolTypes.Number.Binary64
import ProtocolTypes.Number.Digits
import ProtocolTypes.Text.Lines

/-!
# Linter reports

A report is a list with an entry for each linted file, of which there is one: the text
that the linter makes of it, and the problems that are left.  Reports are read without
a check; one of another shape is an accident, and which one depends on where the
reading stops.
-/

namespace ProtocolTypes

/-- How grave a problem is. -/
inductive LintSeverity
  | warning
  | error
  deriving DecidableEq, Repr

namespace LintSeverity

/-- The word for a severity. -/
def word : LintSeverity → String
  | warning => "warning"
  | error => "error"

end LintSeverity

/-- A problem that the linter leaves. -/
structure LintProblem where
  line : Int
  column : Int
  severity : LintSeverity
  message : String
  /-- The name of the rule that is broken; an empty text where there is none. -/
  rule : Value := .str ""

/-- The text that the linter makes of a source, and the problems that are left. -/
structure LintResult where
  /-- A text, unless the report has something else in its place. -/
  output : Value
  problems : List LintProblem := []

namespace LintResult

/-- Whether no problem is left. -/
def isClean (result : LintResult) : Bool := result.problems.isEmpty

/-- The result for a source that the linter has nothing to say about. -/
def clean (source : String) : LintResult := { output := .str source }

@[simp]
theorem isClean_clean (source : String) : (clean source).isClean = true := rfl

end LintResult

namespace LintReport

/-- The number of a text: white space around it, a sign, digits of any script. -/
def numberOfText? (text : String) : Option Int :=
  Digits.integer? 10 text.toList

/-- A line or a column. -/
def place : Value → Except Accident Int
  | .int value => .ok value
  | .bool value => .ok (if value then 1 else 0)
  | .float value =>
    match Binary64.truncate? value with
    | some whole => .ok whole
    | none => .error (if value.isNaN then .badValue else .overflow)
  | .str text =>
    match numberOfText? text with
    | some number => .ok number
    | none => .error .badValue
  | _ => .error .wrongType

/-- The severity that a value means: one is a warning, everything else an error. -/
def severity : Value → Except Accident LintSeverity
  | .list _ => .error .wrongType
  | .map _ => .error .wrongType
  | .bool true => .ok .warning
  | .int value => .ok (if value = 1 then .warning else .error)
  | .float value => .ok (if value == 1.0 then .warning else .error)
  | _ => .ok .error

/-- The entry under a key, or a default. -/
def entryOr (default : Value) (key : String) (entries : List (Value × Value)) : Value :=
  (Value.entry? key entries).getD default

/-- One problem of a report. -/
def problem : Value → Except Accident LintProblem
  | .map entries => do
    let line ← place (entryOr (.int 0) "line" entries)
    let column ← place (entryOr (.int 0) "column" entries)
    let grade ← severity (entryOr (.int 2) "severity" entries)
    let rule := entryOr .null "ruleId" entries
    return {
      line := line
      column := column
      severity := grade
      message := Display.text (entryOr (.str "") "message" entries)
      rule := if rule.isTruthy then rule else .str "" }
  | _ => .error .missingMember

/-- The problems that a value lists. -/
def problems : Value → Except Accident (List LintProblem)
  | .list items => items.mapM problem
  | .str text => if text.isEmpty then .ok [] else .error .missingMember
  | .map entries => if entries.isEmpty then .ok [] else .error .missingMember
  | _ => .error .wrongType

/-- The result that a report's entry for the source stands for. -/
def entryResult (source : String) : Value → Except Accident LintResult
  | .map entries => do
    let output := entryOr .null "output" entries
    let left ← problems (entryOr (.list []) "messages" entries)
    return {
      output := if output.isTruthy then output else .str source
      problems := left }
  | _ => .error .missingMember

/-- The result that a report stands for; one that counts as false has nothing to say. -/
def result (source : String) (report : Value) : Except Accident LintResult :=
  if !report.isTruthy then .ok (.clean source)
  else
    match report with
    | .list (entry :: _) => entryResult source entry
    | .map _ => .error .missingKey
    | .str _ => .error .missingMember
    | _ => .error .wrongType

/-- The line that shows a problem. -/
def problemLine (problem : LintProblem) : String :=
  "  " ++ toString problem.line ++ ":" ++ toString problem.column ++ "  " ++
    problem.severity.word ++ "  " ++ problem.message ++
    (if problem.rule.isTruthy then "  " ++ Display.text problem.rule else "")

/-- The text that shows the problems of a file. -/
def text (file : String) (problems : List LintProblem) : String :=
  Text.joinLines (file :: problems.map problemLine)

end LintReport
end ProtocolTypes
