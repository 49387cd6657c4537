import ProtocolTypes.Storage.Basic

/-!
# Making directories

A directory is made in an existing one; where the one above is missing it is made
first.  A directory that is there already is as good as a new one.
-/

namespace ProtocolTypes
namespace Storage

/-- Why a directory could not be made. -/
inductive DirectoryProblem
  | path (problem : PathProblem)
  | occupied

namespace DirectoryProblem

/-- The accident that a problem is. -/
def accident : DirectoryProblem → Accident
  | path problem => problem.accident
  | occupied => .fileExists

end DirectoryProblem

/-- Makes one directory, at a place where nothing stands. -/
def makeDirectory (storage : Storage) (path : FilePath) : Except DirectoryProblem Storage :=
  match storage.locate path with
  | .error problem => .error (.path problem)
  | .ok location =>
    match storage.entryAt? location with
    | some _ => .error .occupied
    | none => .ok (storage.put location .directory)

/-- Accepts the failure to make a directory where there is one. -/
def settle (storage : Storage) (path : FilePath) (problem : DirectoryProblem) :
    Storage × Option Accident :=
  if storage.isDirectory path then (storage, none) else (storage, some problem.accident)

/-- Makes a directory and those above it that are missing, at most that many. -/
def makeDirectoriesWithin : Nat → Storage → FilePath → Storage × Option Accident
  | levels, storage, path =>
    match storage.makeDirectory path with
    | .ok grown => (grown, none)
    | .error (.path .missing) =>
      match levels with
      | 0 => (storage, some PathProblem.missing.accident)
      | above + 1 =>
        match makeDirectoriesWithin above storage path.parent with
        | (grown, some accident) => (grown, some accident)
        | (grown, none) =>
          match grown.makeDirectory path with
          | .ok complete => (complete, none)
          | .error problem => grown.settle path problem
    | .error problem => storage.settle path problem

/-- Makes a directory and all those above it that are missing; what was made stays, also
after an accident. -/
def makeDirectories (storage : Storage) (path : FilePath) : Storage × Option Accident :=
  makeDirectoriesWithin path.parts.length storage path

end Storage

end ProtocolTypes
