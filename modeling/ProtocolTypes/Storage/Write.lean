import ProtocolTypes.Storage.Directory
import ProtocolTypes.Text.Surrogate

/-!
# Writing a file

A text is written to a temporary file beside the destination, which then takes its
place in one step.  Any step may break; the temporary file goes again whatever
happens, and the destination has either its old content or all of the new one.
-/

namespace ProtocolTypes

/-- The steps of writing a file. -/
inductive WriteStep
  | makeDirectories
  | createTemporary
  | writeTemporary
  | flushTemporary
  | syncTemporary
  | replaceDestination
  deriving DecidableEq, Repr

/-- Which steps break of themselves, and how. -/
abbrev Breakage := WriteStep → Option Accident

namespace Storage

/-- No step breaks of itself. -/
def unbroken : Breakage := fun _ => none

/-- The text with a newline at its end. -/
def withFinalNewline (text : String) : String :=
  if text.toList.getLast? = some '\n' then text else text ++ "\n"

/-- The name of the temporary file for a destination, with a mark that makes it new. -/
def temporaryName (mark : String) (path : FilePath) : String :=
  "." ++ path.name ++ "." ++ mark ++ ".tmp"

/-- Digits that fill up to eight places. -/
def markOf (number : Nat) : String :=
  let digits := Nat.toDigits 10 number
  String.ofList (List.replicate (8 - digits.length) '0' ++ digits)

/-- A mark that makes the name of the temporary file new. -/
def freshMark (storage : Storage) (path : FilePath) : String :=
  let taken (number : Nat) : Bool :=
    match storage.find (path.parent.child (temporaryName (markOf number) path)) with
    | .ok _ => true
    | .error _ => false
  markOf (((List.range (storage.entries.length + 1)).find? fun number => !taken number).getD 0)

/-- The location of the temporary file, at which nothing stands yet. -/
def temporaryLocation (storage : Storage) (mark : String) (path : FilePath) :
    Except Accident Location :=
  match storage.locate (path.parent.child (temporaryName mark path)) with
  | .ok location => .ok location
  | .error problem => .error problem.accident

/-- Whether a path ends in a name of its own, and not above or at where it began. -/
def hasOwnName (path : FilePath) : Bool :=
  !path.name.isEmpty && path.name != ".."

/-- The location that the temporary file moves to, unless it cannot. -/
def destination (storage : Storage) (path : FilePath) : Except Accident Location :=
  if !hasOwnName path then .error .fileSystem
  else
    match storage.locate path with
    | .error problem => .error problem.accident
    | .ok location =>
      match storage.entryAt? location with
      | some .directory => .error .isDirectory
      | _ => .ok location

/-- The first accident among the steps. -/
def firstBreak (breaks : Breakage) (steps : List WriteStep) : Option Accident :=
  steps.findSome? breaks

/-- Fills the temporary file and puts it in the place of the destination; after an
accident the temporary file is gone. -/
def fillAndReplace
    (breaks : Breakage)
    (path : FilePath)
    (content : ByteArray)
    (temporary : Location)
    (storage : Storage) :
    Storage × Except Accident FilePath :=
  let written := storage.put temporary (.file content)
  match firstBreak breaks [.writeTemporary, .flushTemporary, .syncTemporary] with
  | some accident => (written.remove temporary, .error accident)
  | none =>
    match breaks .replaceDestination with
    | some accident => (written.remove temporary, .error accident)
    | none =>
      match written.destination path with
      | .error accident => (written.remove temporary, .error accident)
      | .ok location => ((written.remove temporary).put location (.file content), .ok path)

/-- Writes a text to a file, by way of a temporary one with that mark. -/
def writeWith
    (breaks : Breakage)
    (mark : String)
    (storage : Storage)
    (path : FilePath)
    (text : String) :
    Storage × Except Accident FilePath :=
  match breaks .makeDirectories with
  | some accident => (storage, .error accident)
  | none =>
    match storage.makeDirectories path.parent with
    | (grown, some accident) => (grown, .error accident)
    | (grown, none) =>
      match breaks .createTemporary with
      | some accident => (grown, .error accident)
      | none =>
        match grown.temporaryLocation mark path with
        | .error accident => (grown, .error accident)
        | .ok temporary =>
          fillAndReplace breaks path (withFinalNewline text).toUTF8 temporary
            (grown.put temporary (.file ByteArray.empty))

/-- Which steps break because a path or the text cannot be encoded. -/
def encodingBreakage [StandIns] (path : FilePath) (text : String) : Breakage
  | .makeDirectories => unlessFit (Text.isNameable path.parent.text)
  | .createTemporary => unlessFit (Text.isNameable path.text)
  | .writeTemporary => unlessFit (Text.isEncodable text)
  | _ => none
where
  /-- The accident of a step that needs what is not given. -/
  unlessFit (isFit : Bool) : Option Accident := if isFit then none else some .unencodable

/-- Writes a text to a file; no step breaks but for what cannot be encoded.  The mark is
made for the storage in which the directories above the file are there. -/
def write [StandIns] (storage : Storage) (path : FilePath) (text : String) :
    Storage × Except Accident FilePath :=
  let mark := (storage.makeDirectories path.parent).1.freshMark path
  storage.writeWith (encodingBreakage path text) mark path text

/-- Puts a text into a file of an existing directory, in the place of what the file held. -/
def overwrite (storage : Storage) (path : FilePath) (text : String) :
    Except Accident Storage :=
  (storage.destination path).map fun location =>
    storage.put location (.file text.toUTF8)

end Storage
end ProtocolTypes
