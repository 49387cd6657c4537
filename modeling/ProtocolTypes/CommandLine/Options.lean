/-!
# Options among words

A command line is a list of words.  A word that begins with a dash and is longer than it
is an option, or several in one: a long option may carry its value behind an equals
sign, and letters of short ones may stand together, the value of the last behind it.
Two dashes alone end the options.  A value that is not there yet is the next word,
whatever it looks like.
-/

namespace ProtocolTypes
namespace CommandLine

/-- Why words are no command line. -/
inductive Misuse
  | unknownOption (word : String)
  | missingValue (word : String)
  | unwantedValue (word : String)
  | unknownCommand (word : String)
  | missingCommand
  | missingArgument (name : String)
  | badKind (word : String)
  | extraArguments (words : List String)
  deriving DecidableEq, Repr

/-- What an option does with the choices that are made so far. -/
inductive OptionEffect (Choices : Type)
  /-- The option stands alone. -/
  | switch (change : Choices → Choices)
  /-- The option has a value. -/
  | value (change : String → Choices → Choices)

/-- An option with all its spellings. -/
structure OptionSpec (Choices : Type) where
  spellings : List String
  effect : OptionEffect Choices

/-- Where reading an option has led. -/
inductive OptionStep (Choices : Type)
  | complete (choices : Choices)
  /-- The value of the option is the next word. -/
  | wantsValue (change : String → Choices → Choices) (choices : Choices)

/-- The choices, and the words that are no options. -/
structure Scanned (Choices : Type) where
  choices : Choices
  arguments : List String := []

variable {Choices : Type}

/-- The effect of an option with that spelling. -/
def effect? (specs : List (OptionSpec Choices)) (spelling : String) :
    Option (OptionEffect Choices) :=
  (specs.find? fun spec => spec.spellings.contains spelling).map OptionSpec.effect

/-- Whether a spelling is a long one. -/
def isLong (spelling : String) : Bool :=
  "--".toList.isPrefixOf spelling.toList

/-- Whether a word is an option or several. -/
def isOption (word : String) : Bool :=
  match word.toList with
  | '-' :: _ :: _ => true
  | _ => false

/-- Reads the letters of short options. -/
def readLetters
    (specs : List (OptionSpec Choices))
    (choices : Choices) :
    List Char → Except Misuse (OptionStep Choices)
  | [] => .ok (.complete choices)
  | letter :: rest =>
    let spelling := String.ofList ['-', letter]
    match effect? specs spelling with
    | none => .error (.unknownOption spelling)
    | some (.switch change) => readLetters specs (change choices) rest
    | some (.value change) =>
      if rest.isEmpty then .ok (.wantsValue change choices)
      else .ok (.complete (change (String.ofList rest) choices))

/-- The spelling and the value of a long option; without an equals sign it has none. -/
def splitValue (word : List Char) : String × Option String :=
  match word.dropWhile (· != '=') with
  | [] => (String.ofList word, none)
  | _ :: text => (String.ofList (word.takeWhile (· != '=')), some (String.ofList text))

/-- Reads a long option. -/
def readLong
    (specs : List (OptionSpec Choices))
    (choices : Choices)
    (word : String) :
    Except Misuse (OptionStep Choices) :=
  let (spelling, text?) := splitValue word.toList
  match effect? specs spelling, text? with
  | none, _ => .error (.unknownOption spelling)
  | some (.switch change), none => .ok (.complete (change choices))
  | some (.switch _), some _ => .error (.unwantedValue spelling)
  | some (.value change), none => .ok (.wantsValue change choices)
  | some (.value change), some text => .ok (.complete (change text choices))

/-- Reads a word that is an option or several. -/
def readOption
    (specs : List (OptionSpec Choices))
    (choices : Choices)
    (word : String) :
    Except Misuse (OptionStep Choices) :=
  if isLong word then readLong specs choices word
  else readLetters specs choices (word.toList.drop 1)

/-- Reads words.  Where options may stand among arguments, reading goes on behind the
first argument, and otherwise it ends in front of it. -/
def scan
    (specs : List (OptionSpec Choices))
    (amongArguments : Bool)
    (choices : Choices) :
    List String → Except Misuse (Scanned Choices)
  | [] => .ok { choices := choices }
  | word :: rest =>
    if word == "--" then .ok { choices := choices, arguments := rest }
    else if isOption word then
      match readOption specs choices word with
      | .error misuse => .error misuse
      | .ok (.complete changed) => scan specs amongArguments changed rest
      | .ok (.wantsValue change unchanged) =>
        match rest with
        | [] => .error (.missingValue word)
        | text :: others => scan specs amongArguments (change text unchanged) others
    else if amongArguments then
      (scan specs amongArguments choices rest).map fun scanned =>
        { scanned with arguments := word :: scanned.arguments }
    else .ok { choices := choices, arguments := word :: rest }

end CommandLine
end ProtocolTypes
