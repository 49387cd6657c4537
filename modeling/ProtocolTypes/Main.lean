import ProtocolTypes.CommandLine.Survey

/-!
# The command line

Reads what a session may look at, runs it, and carries out what it has changed.  The
program has no way to the web and starts no other program: requests stay without a
reply, and the linter counts as missing.

Left out are a stack that runs full on a very deep document, streams in another encoding than
UTF-8, source that is coloured for a terminal, the wording of help, and names of files that are
not of characters.  A surrogate in a key counts as any other character of the key.
-/

namespace ProtocolTypes
namespace CommandLine

/-- The variables of the environment that a session may ask for. -/
def knownVariables : List String :=
  [ "GH_COMMIT", "GH_TOKEN", "OBSGEN_OUTPUT", "NO_COLOR", "TERM", "COLUMNS", "LINES",
    "HOME",
    "XDG_DATA_HOME" ]

/-- Reads the environment. -/
def readEnvironment : IO Environment := do
  let found ← knownVariables.filterMapM fun name => do
    return (← IO.getEnv name).map fun text => (name, text)
  return { settings := found }

/-- The absolute path of a location. -/
def pathText (location : Location) : String := "/" ++ "/".intercalate location

/-- Reads what stands at a location. -/
def readEntry? (location : Location) : IO (Option StorageEntry) := do
  try
    if ← (← IO.FS.realPath (pathText location)).isDir then return some .directory
    return some (.file (← IO.FS.readBinFile (pathText location)))
  catch _ => return none

/-- Adds what stands at locations to what is known. -/
def survey (storage : Storage) (locations : List Location) : IO Storage :=
  locations.foldlM (fun storage location => do
    match ← readEntry? location with
    | some entry => return storage.put location entry
    | none => return storage) storage

/-- Reads the lines that are left. -/
partial def readRest (stream : IO.FS.Stream) (text : String) : IO String := do
  let line ← stream.getLine
  if line.isEmpty then return text else readRest stream (text ++ line)

/-- Carries out a change: a file is filled beside its place and then put there. -/
def carryOut : Location × StorageEntry → IO Unit
  | (location, .directory) => IO.FS.createDirAll (pathText location)
  | (location, .file content) => do
    let beside := pathText location ++ ".tmp"
    IO.FS.writeBinFile beside content
    IO.FS.rename beside (pathText location)

/-- Reads what surrounds a command. -/
def readSurroundings (command : Command) : IO Surroundings := do
  let workingDirectory := (FilePath.ofText (← IO.currentDir).toString).parts
  let bare : Surroundings :=
    { storage := { workingDirectory := workingDirectory }
      environment := ← readEnvironment
      moment := toString (← IO.monoMsNow)
      isTerminal := ← (← IO.getStdout).isTty }
  let locations (paths : List FilePath) : List Location :=
    paths.flatMap (wayOf workingDirectory)
  let opening ← survey bare.storage (locations (openingPaths bare command))
  let known := { bare with storage := opening }
  let storage ← survey opening (locations (outputPath? known command).toList)
  let text ←
    match Origin.ofText? (namedSource command) with
    | .standardInput => do pure (Text.unifyNewlines (← readRest (← IO.getStdin) ""))
    | _ => pure ""
  return { known with storage := storage, standardInput := text }

/-- Reads what surrounds a command line. -/
def surroundingsFor (words : List String) : IO Surroundings :=
  match Invocation.ofWords words with
  | .ok (.run _ command) => readSurroundings command
  | _ => return {}

end CommandLine
end ProtocolTypes

open ProtocolTypes in
/-- Runs the program. -/
def main (words : List String) : IO UInt32 := do
  let surroundings ← CommandLine.surroundingsFor words
  let (result, transcript) := CommandLine.run surroundings words
  IO.print transcript.standardOutput
  IO.eprint transcript.standardError
  (CommandLine.changes surroundings.storage transcript.storage).forM CommandLine.carryOut
  return (CommandLine.exitCodeOf result).toNat.toUInt32
