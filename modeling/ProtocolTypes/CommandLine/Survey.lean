import ProtocolTypes.CommandLine.Run

/-!
# What a session may look at

A session looks at few places of a file system: the project file, the source, the file
that it writes, the data directory, and the directories on the way to each of them.
They are known before it begins, but for the file that it writes, which the settings
name.  What a session has changed is the difference between the entries before and
after it.
-/

namespace ProtocolTypes
namespace CommandLine

/-- The locations that parts lead through from a location on. -/
def wayFrom : Location → List String → List Location
  | location, [] => [location]
  | location, part :: rest =>
    location :: wayFrom (if part = ".." then location.dropLast else location ++ [part]) rest

/-- The locations on the way of a path. -/
def wayOf (workingDirectory : Location) (path : FilePath) : List Location :=
  wayFrom [] (if path.isAbsolute then path.parts else workingDirectory ++ path.parts)

/-- The text from which the protocol is to be taken, if one is named. -/
def namedSource : Command → Option String
  | .generate choices => choices.source
  | .display choices => choices.source

/-- What a command asks of the settings. -/
def askedSettings : Command → SettingsChoice
  | .generate choices => choices.settingsChoice
  | .display choices => { commit := choices.commit }

/-- The paths that a command may look at before it knows its settings. -/
def openingPaths (surroundings : Surroundings) (command : Command) : List FilePath :=
  let project := ProjectFile.pathIn surroundings.storage.workingPath
  let logs := (crashLogDirectory surroundings).toOption.toList.map fun directory =>
    directory.child (crashLogName surroundings.moment)
  match Origin.ofText? (namedSource command) with
  | .file name => project :: logs ++ [FilePath.ofText name]
  | _ => project :: logs

/-- The path of the file that a command writes, if its settings can be had. -/
def outputPath? [StandIns] (surroundings : Surroundings) (command : Command) : Option FilePath :=
  match Settings.resolve surroundings.storage surroundings.environment
    (askedSettings command) with
  | .ok settings => some (FilePath.ofText settings.outputFile)
  | .error _ => none

/-- Whether an entry is new or has another content than before. -/
def isChanged (before : Storage) (entry : Location × StorageEntry) : Bool :=
  match before.entryAt? entry.1, entry.2 with
  | some .directory, .directory => false
  | some (.file old), .file new => old.toList != new.toList
  | _, _ => true

/-- The entries that a session has changed, each behind the directories above it. -/
def changes (before after : Storage) : List (Location × StorageEntry) :=
  (after.entries.filter (isChanged before)).mergeSort fun first second =>
    first.1.length ≤ second.1.length

end CommandLine
end ProtocolTypes
