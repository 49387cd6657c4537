import ProtocolTypes.Text.Lines

/-!
# File paths

A path is its parts below a root.  Empty parts and single dots mean nothing and are
dropped; two dots are kept, since what they mean depends on the files.
-/

namespace ProtocolTypes

/-- A path of a file or directory. -/
structure FilePath where
  /-- Slashes for an absolute path, nothing for one below the working directory. -/
  root : String := ""
  parts : List String
  deriving DecidableEq, Repr

namespace FilePath

/-- The root that a text begins with: two slashes are a root of their own, more than two
are not. -/
def rootOf (text : List Char) : String :=
  match (text.takeWhile (· == '/')).length with
  | 0 => ""
  | 2 => "//"
  | _ => "/"

/-- Whether a part means anything. -/
def isPart (part : String) : Bool :=
  !part.isEmpty && part != "."

/-- The path of a text. -/
def ofText (text : String) : FilePath :=
  { root := rootOf text.toList
    parts := (Text.splitAt '/' text).filter isPart }

/-- The text of a path. -/
def text (path : FilePath) : String :=
  if path.root.isEmpty && path.parts.isEmpty then "."
  else path.root ++ "/".intercalate path.parts

/-- Whether the path begins at a root. -/
def isAbsolute (path : FilePath) : Bool := !path.root.isEmpty

/-- The last part, if there is one. -/
def name (path : FilePath) : String := path.parts.getLast?.getD ""

/-- The path without its last part. -/
def parent (path : FilePath) : FilePath :=
  { path with parts := path.parts.dropLast }

/-- The path of what has that name below this one. -/
def child (path : FilePath) (name : String) : FilePath :=
  { path with parts := path.parts ++ [name] }

/-- The extension of a name: the last dot with what follows it, neither of which may be
the whole name's beginning or end. -/
def extensionOf (name : List Char) : List Char :=
  let after := (name.reverse.takeWhile (· != '.')).reverse
  if after.isEmpty || name.length ≤ after.length + 1 then [] else '.' :: after

/-- The extension of the path's name, in lower case. -/
def extension (path : FilePath) : String :=
  String.ofList ((extensionOf path.name.toList).map Char.toLower)

@[simp]
theorem parts_child (path : FilePath) (name : String) :
    (path.child name).parts = path.parts ++ [name] := rfl

@[simp]
theorem parent_child (path : FilePath) (name : String) :
    (path.child name).parent = path := by
  simp [parent, child]

end FilePath
end ProtocolTypes
