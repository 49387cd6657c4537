import ProtocolTypes.CommandLine.Options
import ProtocolTypes.Console.Basic
import ProtocolTypes.Protocol.Descriptor
import ProtocolTypes.Settings.Resolve

/-!
# Invocations

What the program is asked to do: to generate the module, to show one declaration, or
to say something about itself.  Options of the program stand in front of the command,
options of a command anywhere behind it.
-/

namespace ProtocolTypes
namespace CommandLine

/-- What the program can say about itself. -/
inductive SelfDescription
  | version
  | help
  deriving DecidableEq, Repr

/-- The choices for generating the module. -/
structure GenerateChoices where
  commit : Option String := none
  source : Option String := none
  outputFile : Option String := none
  lint : Option Bool := none
  overloads : Option Bool := none
  /-- Whether failing entities are left out. -/
  keepGoing : Bool := false
  /-- Whether the module is printed and not written. -/
  toStandardOutput : Bool := false
  deriving DecidableEq, Repr

/-- The choices for showing a declaration. -/
structure ShowChoices where
  kind : EntityKind
  name : String
  commit : Option String := none
  source : Option String := none
  deriving DecidableEq, Repr

/-- The commands. -/
inductive Command
  | generate (choices : GenerateChoices)
  | display (choices : ShowChoices)
  deriving DecidableEq, Repr

/-- What a command line asks for. -/
inductive Invocation
  /-- Nothing is asked for; the help is shown as for a misuse. -/
  | nothing
  | describe (description : SelfDescription)
  | run (switches : ConsoleSwitches) (command : Command)
  deriving DecidableEq, Repr

/-- Choices, with what the program is asked to say about itself first. -/
structure Asked (Choices : Type) where
  choices : Choices
  description : Option SelfDescription := none

namespace Asked

variable {Choices : Type}

/-- Changes the choices. -/
def update (change : Choices → Choices) (asked : Asked Choices) : Asked Choices :=
  { asked with choices := change asked.choices }

/-- Asks for a description, unless one is asked for already. -/
def ask (description : SelfDescription) (asked : Asked Choices) : Asked Choices :=
  { asked with description := asked.description.or (some description) }

end Asked

/-- The option that asks for help. -/
def helpSpec {Choices : Type} : OptionSpec (Asked Choices) :=
  ⟨["--help"], .switch (Asked.ask .help)⟩

/-- An option that stands alone. -/
def switchSpec {Choices : Type} (spellings : List String) (change : Choices → Choices) :
    OptionSpec (Asked Choices) :=
  ⟨spellings, .switch (Asked.update change)⟩

/-- An option with a value. -/
def valueSpec {Choices : Type}
    (spellings : List String)
    (change : String → Choices → Choices) :
    OptionSpec (Asked Choices) :=
  ⟨spellings, .value fun text => Asked.update (change text)⟩

/-- The options of the program. -/
def programSpecs : List (OptionSpec (Asked ConsoleSwitches)) :=
  [ helpSpec,
    ⟨["--version"], .switch (Asked.ask .version)⟩,
    switchSpec ["--no-color"] fun switches => { switches with noColor := true },
    switchSpec ["--quiet", "-q"] fun switches => { switches with quiet := true },
    switchSpec ["--verbose", "-v"] fun switches => { switches with verbose := true } ]

/-- The options for generating the module. -/
def generateSpecs : List (OptionSpec (Asked GenerateChoices)) :=
  [ helpSpec,
    valueSpec ["--source", "-s"] fun text choices => { choices with source := some text },
    valueSpec ["--output", "-o"] fun text choices => { choices with outputFile := some text },
    switchSpec ["--lint"] fun choices => { choices with lint := some true },
    switchSpec ["--no-lint"] fun choices => { choices with lint := some false },
    switchSpec ["--overrides"] fun choices => { choices with overloads := some true },
    switchSpec ["--no-overrides"] fun choices => { choices with overloads := some false },
    switchSpec ["--keep-going", "-k"] fun choices => { choices with keepGoing := true },
    switchSpec ["--stdout"] fun choices => { choices with toStandardOutput := true } ]

/-- Where a declaration to show is taken from. -/
structure ShowOrigin where
  commit : Option String := none
  source : Option String := none

/-- The options for showing a declaration. -/
def showSpecs : List (OptionSpec (Asked ShowOrigin)) :=
  [ helpSpec,
    valueSpec ["--commit", "-c"] fun text origin => { origin with commit := some text },
    valueSpec ["--source", "-s"] fun text origin => { origin with source := some text } ]

/-- The command that scanned words ask for, unless they ask for help. -/
def finishCommand {Choices : Type}
    (switches : ConsoleSwitches)
    (scanned : Scanned (Asked Choices))
    (command : Choices → List String → Except Misuse Command) :
    Except Misuse Invocation :=
  match scanned.choices.description with
  | some description => .ok (.describe description)
  | none => (command scanned.choices.choices scanned.arguments).map (.run switches)

/-- The command to generate the module, with the arguments behind its options. -/
def generateCommand (choices : GenerateChoices) : List String → Except Misuse Command
  | [] => .ok (.generate choices)
  | [commit] => .ok (.generate { choices with commit := some commit })
  | _ :: extra => .error (.extraArguments extra)

/-- The command to show a declaration, with the arguments behind its options. -/
def showCommand (origin : ShowOrigin) : List String → Except Misuse Command
  | [] => .error (.missingArgument "KIND")
  | [_] => .error (.missingArgument "NAME")
  | [kindWord, name] =>
    match EntityKind.ofSpelling? kindWord with
    | none => .error (.badKind kindWord)
    | some kind =>
      .ok (.display
        { kind := kind, name := name, commit := origin.commit, source := origin.source })
  | _ :: _ :: extra => .error (.extraArguments extra)

/-- What is asked for behind the options of the program: a command, or, where the word
in its place is none but an option, what that option asks for. -/
def commandInvocation (switches : ConsoleSwitches) : List String → Except Misuse Invocation
  | [] => .error .missingCommand
  | "generate" :: rest => do
    finishCommand switches (← scan generateSpecs true ⟨{}, none⟩ rest) generateCommand
  | "show" :: rest => do
    finishCommand switches (← scan showSpecs true ⟨{}, none⟩ rest) showCommand
  | word :: rest => do
    match (← scan programSpecs false ⟨switches, none⟩ (word :: rest)).choices.description with
    | some description => .ok (.describe description)
    | none => .error (.unknownCommand word)

namespace Invocation

/-- What a command line asks for. -/
def ofWords (words : List String) : Except Misuse Invocation :=
  if words.isEmpty then .ok .nothing
  else do
    let scanned ← scan programSpecs false ⟨{}, none⟩ words
    match scanned.choices.description with
    | some description => .ok (.describe description)
    | none => commandInvocation scanned.choices.choices scanned.arguments

end Invocation

namespace GenerateChoices

/-- What the choices ask of the settings. -/
def settingsChoice (choices : GenerateChoices) : SettingsChoice :=
  { commit := choices.commit
    outputFile := choices.outputFile
    lint := choices.lint
    strict := if choices.keepGoing then some false else none
    overloads := choices.overloads }

end GenerateChoices
end CommandLine
end ProtocolTypes
