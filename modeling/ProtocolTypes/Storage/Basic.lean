import ProtocolTypes.Accident
import ProtocolTypes.Storage.Path

/-!
# Storage

The files and directories that a run can see.  A location is the list of names from
the root down; a path is followed to its location name by name, every one but the
last in an existing directory.
-/

namespace ProtocolTypes

/-- What stands at a location. -/
inductive StorageEntry
  | file (content : ByteArray)
  | directory

/-- The names from the root down to a place. -/
abbrev Location := List String

/-- Files and directories, with the directory that relative paths begin in. -/
structure Storage where
  entries : List (Location × StorageEntry) := []
  workingDirectory : Location := []

/-- Why a path leads nowhere. -/
inductive PathProblem
  | missing
  | notDirectory
  | nameTooLong
  | nullCharacter
  deriving DecidableEq, Repr

namespace PathProblem

/-- The accident that a problem is where the path has to lead somewhere. -/
def accident : PathProblem → Accident
  | missing => .fileSystem
  | notDirectory => .notDirectory
  | nameTooLong => .fileSystem
  | nullCharacter => .badValue

end PathProblem

namespace Storage

/-- The absolute path of the working directory. -/
def workingPath (storage : Storage) : FilePath :=
  { root := "/", parts := storage.workingDirectory }

/-- What stands at a location; the root is always there. -/
def entryAt? (storage : Storage) (location : Location) : Option StorageEntry :=
  if location.isEmpty then some .directory else storage.entries.lookup location

/-- The content of the file at a location. -/
def content? (storage : Storage) (location : Location) : Option ByteArray :=
  match storage.entryAt? location with
  | some (.file content) => some content
  | _ => none

/-- Takes away what stands at a location. -/
def remove (location : Location) (storage : Storage) : Storage :=
  { storage with entries := storage.entries.filter fun (other, _) => other != location }

/-- Puts an entry at a location, in the place of what stands there. -/
def put (location : Location) (entry : StorageEntry) (storage : Storage) : Storage :=
  { storage with entries := (location, entry) :: (storage.remove location).entries }

/-- The greatest number of bytes of a name. -/
def maxNameBytes : Nat := 255

/-- The greatest number of bytes of a path. -/
def maxPathBytes : Nat := 4095

/-- The location that names lead to from a location on. -/
def follow (storage : Storage) : Location → List String → Except PathProblem Location
  | location, [] => .ok location
  | location, part :: rest =>
    match storage.entryAt? location with
    | none => .error .missing
    | some (.file _) => .error .notDirectory
    | some .directory =>
      if part = ".." then storage.follow location.dropLast rest
      else if maxNameBytes < part.utf8ByteSize then .error .nameTooLong
      else storage.follow (location ++ [part]) rest

/-- The location that a path leads to, at which something may stand or not. -/
def locate (storage : Storage) (path : FilePath) : Except PathProblem Location :=
  if path.parts.any fun part => part.toList.contains '\x00' then .error .nullCharacter
  else if maxPathBytes < path.text.utf8ByteSize then .error .nameTooLong
  else storage.follow (if path.isAbsolute then [] else storage.workingDirectory) path.parts

/-- What a path leads to. -/
def find (storage : Storage) (path : FilePath) : Except PathProblem StorageEntry := do
  match storage.entryAt? (← storage.locate path) with
  | some entry => .ok entry
  | none => .error .missing

/-- Whether a path leads to a directory. -/
def isDirectory (storage : Storage) (path : FilePath) : Bool :=
  match storage.find path with
  | .ok .directory => true
  | _ => false

/-- The content of the file that a path leads to, if it leads to one; a name that is too
long is an accident. -/
def readFile? (storage : Storage) (path : FilePath) : Except Accident (Option ByteArray) :=
  match storage.find path with
  | .ok (.file content) => .ok (some content)
  | .ok .directory => .ok none
  | .error .nameTooLong => .error PathProblem.nameTooLong.accident
  | .error _ => .ok none

/-- The text of a file's content, its line ends unified. -/
def textOf (content : ByteArray) : Except Accident String :=
  match String.fromUTF8? content with
  | some text => .ok (Text.unifyNewlines text)
  | none => .error .badEncoding

@[simp]
theorem entryAt?_nil (storage : Storage) : storage.entryAt? [] = some .directory := rfl

@[simp]
theorem workingDirectory_put
    (location : Location)
    (entry : StorageEntry)
    (storage : Storage) :
    (storage.put location entry).workingDirectory = storage.workingDirectory := rfl

@[simp]
theorem workingDirectory_remove (location : Location) (storage : Storage) :
    (storage.remove location).workingDirectory = storage.workingDirectory := rfl

theorem lookup_put_self
    (location : Location)
    (entry : StorageEntry)
    (storage : Storage) :
    (storage.put location entry).entries.lookup location = some entry := by
  simp [put]

theorem lookup_filter_of_ne
    (entries : List (Location × StorageEntry))
    (location other : Location)
    (different : other ≠ location) :
    (entries.filter fun (present, _) => present != location).lookup other =
      entries.lookup other := by
  induction entries with
  | nil => rfl
  | cons head rest inductionHypothesis =>
    obtain ⟨present, entry⟩ := head
    by_cases same : present = location
    · have unequal : (other == present) = false := by simpa [same] using different
      rw [List.filter_cons_of_neg (by simp [same]), List.lookup_cons, unequal]
      exact inductionHypothesis
    · rw [List.filter_cons_of_pos (by simpa using same), List.lookup_cons, List.lookup_cons,
        inductionHypothesis]

theorem entryAt?_put_of_ne
    (location other : Location)
    (different : other ≠ location)
    (entry : StorageEntry)
    (storage : Storage) :
    (storage.put location entry).entryAt? other = storage.entryAt? other := by
  have unequal : (other == location) = false := by simpa using different
  have kept :
      (storage.put location entry).entries.lookup other = storage.entries.lookup other := by
    rw [put, List.lookup_cons, unequal]
    exact lookup_filter_of_ne _ _ _ different
  simp [entryAt?, kept]

theorem entryAt?_remove_of_ne
    (location other : Location)
    (different : other ≠ location)
    (storage : Storage) :
    (storage.remove location).entryAt? other = storage.entryAt? other := by
  have kept :
      (storage.remove location).entries.lookup other = storage.entries.lookup other :=
    lookup_filter_of_ne _ _ _ different
  simp [entryAt?, kept]

end Storage
end ProtocolTypes
