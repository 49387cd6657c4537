import ProtocolTypes.Accident
import ProtocolTypes.Environment
import ProtocolTypes.Storage.Directory
import ProtocolTypes.Text.Blank

/-!
# The data directory

Where a program keeps what it writes for itself.  Systems with a desktop standard name
a place for the data of all programs; on the others it is a hidden directory of the
user's home.
-/

namespace ProtocolTypes
namespace DataDirectory

/-- The name of the program's directory. -/
def programName : String := "obsgen"

/-- Whether a system follows the desktop standard. -/
def followsDesktop (system : String) : Bool :=
  system == "Linux" || "BSD".toList.isSuffixOf system.toList

/-- The home directory that the environment names; no name, and one of slashes only,
stand for the root.  A name that begins with a tilde would refer to a home again, and is
none. -/
def home (environment : Environment) : Except Accident FilePath :=
  let named := ((environment.value? "HOME").getD "").toList
  if named.head? == some '~' then .error .noHome
  else if named.all (· == '/') then .ok (FilePath.ofText "/")
  else .ok (FilePath.ofText (String.ofList (Text.dropEndWhile (· == '/') named)))

/-- The directory for the data of all programs. -/
def desktopData (environment : Environment) : Except Accident FilePath :=
  match environment.nonempty? "XDG_DATA_HOME" with
  | some named => .ok (FilePath.ofText named)
  | none => (home environment).map fun directory => (directory.child ".local").child "share"

/-- The directory for the program's data. -/
def path (system : String) (environment : Environment) : Except Accident FilePath :=
  if followsDesktop system then
    (desktopData environment).map fun directory => directory.child programName
  else (home environment).map fun directory => directory.child ("." ++ programName)

end DataDirectory
end ProtocolTypes
