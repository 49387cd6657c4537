import ProtocolTypes.CommandLine.Generate
import ProtocolTypes.CommandLine.Show
import ProtocolTypes.Storage.DataDirectory

/-!
# Running the program

A command line from its words to the exit code.  An accident that interrupts a command
is written to a crash log in the data directory, and told.
-/

namespace ProtocolTypes
namespace CommandLine

/-- The program's name and version. -/
def versionLine : String := "obsgen 0.3.0\n"

/-- The text that tells how the program is used. -/
def usageText : String :=
  Text.joinLines
    [ "Usage: obsgen [--version] [--no-color] [-q|--quiet] [-v|--verbose] [--help] COMMAND",
      "",
      "Compile obs-websocket's protocol.json into TypeScript declarations.",
      "",
      "Commands:",
      "  generate [COMMIT] [-s|--source SOURCE] [-o|--output FILE] [--lint|--no-lint]",
      "           [--overrides|--no-overrides] [-k|--keep-going] [--stdout]",
      "  show KIND NAME [-c|--commit COMMIT] [-s|--source SOURCE]",
      "" ]

/-- The exit code of a misuse. -/
def misuseCode : Int := FailureKind.invalidUsage.exitCode

/-- The exit code after an accident. -/
def accidentCode : Int := FailureKind.general.exitCode

/-- The name of the crash log of a moment. -/
def crashLogName (moment : String) : String := "crash-" ++ moment ++ ".log"

/-- The directory of the crash logs. -/
def crashLogDirectory (surroundings : Surroundings) : Except Accident FilePath :=
  (DataDirectory.path surroundings.system surroundings.environment).map fun directory =>
    directory.child "logs"

/-- The text of a crash log. -/
def crashText (accident : Accident) : String :=
  "Interrupted by an accident: " ++ accident.description ++ "\n"

/-- Writes the crash log, the path of which is the result. -/
def writeCrashLog (surroundings : Surroundings) (accident : Accident) : Session FilePath := do
  let directory ← Session.orBreak (crashLogDirectory surroundings)
  Session.makeDirectories directory
  let path := directory.child (crashLogName surroundings.moment)
  Session.overwrite path (crashText accident)
  return path

variable [StandIns]

/-- Runs a command. -/
def runCommand (surroundings : Surroundings) (console : Console) : Command → Session Int
  | .generate choices => generate surroundings console choices
  | .display choices => display surroundings console choices

/-- Ends a session after an accident, which is told if there is a console. -/
def concludeAccident
    (surroundings : Surroundings)
    (console : Except Accident Console)
    (accident : Accident) :
    Session Int := do
  let path ← writeCrashLog surroundings accident
  let console ← Session.orBreak console
  Session.say console .error ("Unexpected error. Debug log: " ++ path.text)
  return accidentCode

/-- Runs a command and deals with what interrupts it. -/
def runGuarded (surroundings : Surroundings) (console : Console) (command : Command) :
    Session Int := do
  match ← Session.outcome (runCommand surroundings console command) with
  | .ok exitCode => return exitCode
  | .error (.reported failure) => do
    Session.say console .error failure.text
    return failure.exitCode
  | .error (.accident accident) => concludeAccident surroundings (.ok console) accident

omit [StandIns] in
/-- The console that switches and surroundings make. -/
def consoleFor (surroundings : Surroundings) (switches : ConsoleSwitches) :
    Except Accident Console :=
  Console.start .automatic switches surroundings.environment surroundings.isTerminal

/-- Goes on with the console, if there is one. -/
def withConsole
    (surroundings : Surroundings)
    (switches : ConsoleSwitches)
    (next : Console → Session Int) :
    Session Int :=
  match consoleFor surroundings switches with
  | .ok console => next console
  | .error accident => concludeAccident surroundings (.error accident) accident

/-- Does what is asked for. -/
def perform (surroundings : Surroundings) : Except Misuse Invocation → Session Int
  | .error _ =>
    withConsole surroundings {} fun _ => do
      Session.printError usageText
      return misuseCode
  | .ok .nothing =>
    withConsole surroundings {} fun _ => do
      Session.print usageText
      return misuseCode
  | .ok (.describe .help) =>
    withConsole surroundings {} fun _ => do
      Session.print usageText
      return 0
  | .ok (.describe .version) => do
    Session.print versionLine
    return 0
  | .ok (.run switches command) =>
    withConsole surroundings switches fun console => runGuarded surroundings console command

/-- Runs the program with the words of a command line: the exit code, and what is left of
the session.  An accident of the crash log itself is not dealt with any more. -/
def run (surroundings : Surroundings) (words : List String) :
    Except (Interruption Failure) Int × Transcript :=
  (perform surroundings (Invocation.ofWords words)).run { storage := surroundings.storage }

omit [StandIns] in
/-- The exit code of the program; what nobody has dealt with is an accident. -/
def exitCodeOf : Except (Interruption Failure) Int → Int
  | .ok exitCode => exitCode
  | .error _ => accidentCode

end CommandLine
end ProtocolTypes
