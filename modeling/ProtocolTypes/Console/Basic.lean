import ProtocolTypes.Console.Markup
import ProtocolTypes.Console.Wrap
import ProtocolTypes.Environment
import ProtocolTypes.Log
import ProtocolTypes.Number.Digits

/-!
# The console

What a run shows.  Its result goes to standard output, and what it has to say on the
way, its diagnostics, to standard error.  Where colours are not unwanted, diagnostics
pass through console markup and are wrapped to the width of the screen; a stream that
is no terminal shows no colours even so.
-/

namespace ProtocolTypes

/-- How the result is shown. -/
inductive OutputFormat
  | plain
  | rich
  deriving DecidableEq, Repr

/-- The format that is asked for. -/
inductive FormatChoice
  | automatic
  | always (format : OutputFormat)
  deriving DecidableEq, Repr

namespace FormatChoice

/-- The choice of a word. -/
def ofWord? (word : String) : Option FormatChoice :=
  if word == "auto" then some automatic
  else if word == "plain" then some (always .plain)
  else if word == "rich" then some (always .rich)
  else none

end FormatChoice

/-- What the user asks of the console. -/
structure ConsoleSwitches where
  noColor : Bool := false
  quiet : Bool := false
  verbose : Bool := false
  deriving DecidableEq, Repr

/-- The settled ways of the console. -/
structure Console where
  format : OutputFormat := .plain
  /-- Whether texts are shown as they are. -/
  noColor : Bool := false
  quiet : Bool := false
  verbose : Bool := false
  /-- The cells of a line of the screen. -/
  width : Nat := 80
  deriving DecidableEq, Repr

/-- The kinds of diagnostics. -/
inductive Diagnostic
  | information
  | success
  | warning
  | error
  | debugging
  deriving DecidableEq, Repr

/-- The grades of log records. -/
inductive LogLevel
  | debugging
  | warning
  deriving DecidableEq, Repr

namespace LogLevel

/-- The number of a grade; the graver one has the greater number. -/
def number : LogLevel → Nat
  | debugging => 10
  | warning => 30

/-- The word for a grade. -/
def word : LogLevel → String
  | debugging => "DEBUG"
  | warning => "WARNING"

end LogLevel

namespace Diagnostic

/-- A message as it stands without markup. -/
def plain (message : String) : Diagnostic → String
  | information => message
  | success => message
  | warning => "Warning: " ++ message
  | error => "Error: " ++ message
  | debugging => "[debug] " ++ message

/-- A message with the markup of its kind. -/
def markup (message : String) : Diagnostic → String
  | information => message
  | success => "[green]" ++ message ++ "[/green]"
  | warning => "[yellow]Warning:[/yellow] " ++ message
  | error => "[bold red]Error:[/bold red] " ++ message
  | debugging => "[dim]\\[debug] " ++ message ++ "[/dim]"

end Diagnostic

namespace Console

/-- Whether the environment asks for no colours. -/
def colorUnwanted (environment : Environment) : Bool :=
  (environment.value? "NO_COLOR").isSome || environment.value? "TERM" == some "dumb"

/-- The width where none is given. -/
def standardWidth : Nat := 80

/-- The measure that the environment gives under a name, if it is all digits; marks that
are no digits of a script, and too many digits, are an accident. -/
def measure? (environment : Environment) (name : String) : Except Accident (Option Nat) :=
  match environment.nonempty? name with
  | none => .ok none
  | some text =>
    if text.toList.all Text.isDigitLike then
      match Digits.integer? 10 text.toList with
      | some value => .ok (some value.toNat)
      | none => .error .badValue
    else .ok none

/-- The width that the environment gives, or else the standard one. -/
def widthOf (environment : Environment) : Except Accident Nat :=
  (measure? environment "COLUMNS").map fun width => width.getD standardWidth

/-- The format that a choice comes to. -/
def formatOf (choice : FormatChoice) (isTerminal noColor : Bool) : OutputFormat :=
  match choice with
  | .always format => format
  | .automatic => if isTerminal && !noColor then .rich else .plain

/-- The console for a run.  The height is looked at although nothing depends on it. -/
def start
    (choice : FormatChoice)
    (switches : ConsoleSwitches)
    (environment : Environment)
    (isTerminal : Bool) :
    Except Accident Console := do
  let noColor := switches.noColor || colorUnwanted environment
  let width ← widthOf environment
  let _ ← measure? environment "LINES"
  return {
    format := formatOf choice isTerminal noColor
    noColor := noColor
    quiet := switches.quiet
    verbose := switches.verbose
    width := width }

/-- Whether the console shows diagnostics of a kind. -/
def shows (console : Console) : Diagnostic → Bool
  | .information => !console.quiet
  | .success => !console.quiet
  | .debugging => console.verbose
  | _ => true

/-- The lines of a message with markup on the screen; one without any width shows
nothing, and does not look at the styles. -/
def render (console : Console) (markup : String) : Except Accident String := do
  let plain ← Markup.plainText markup
  if console.width = 0 then return ""
  else
    Markup.checkStyles markup
    return Wrap.text console.width plain ++ "\n"

/-- What a diagnostic adds to standard error. -/
def diagnostic (console : Console) (kind : Diagnostic) (message : String) :
    Except Accident String :=
  if !console.shows kind then .ok ""
  else if console.noColor then .ok (kind.plain message ++ "\n")
  else console.render (kind.markup message)

/-- What a piece of data adds to standard output. -/
def data (text : String) : String := text ++ "\n"

/-- What a source adds to standard output: it ends in one newline, however many it has. -/
def source (text : String) : String := data (Text.trimEndNewlines text)

/-- The least grade of the log records that the console shows. -/
def logLevel (console : Console) : LogLevel :=
  if console.verbose then .debugging else .warning

/-- What a record of a part of the program adds to standard error. -/
def logLine (console : Console) (level : LogLevel) (part message : String) : String :=
  if level.number < console.logLevel.number then ""
  else level.word ++ " " ++ part ++ ": " ++ message ++ "\n"

/-- What records add to standard error. -/
def logText (console : Console) (records : List LogRecord) : String :=
  String.join (records.map fun record =>
    console.logLine .debugging record.source record.message)

theorem diagnostic_of_noColor
    (console : Console)
    (kind : Diagnostic)
    (message : String)
    (shown : console.shows kind = true)
    (noColor : console.noColor = true) :
    console.diagnostic kind message = .ok (kind.plain message ++ "\n") := by
  simp [diagnostic, shown, noColor]

end Console
end ProtocolTypes
