import ProtocolTypes.Protocol.Descriptor
import ProtocolTypes.TypeTree.Insert

/-!
# Log records

What the library notes on its way, for whoever asks for details.  Every record has
the name of the part that it comes from, and one wording.
-/

namespace ProtocolTypes

/-- One note of the library. -/
inductive LogRecord
  /-- A step in the growth of a type tree. -/
  | growth (step : GrowthStep)
  /-- An entity with that many fields is compiled. -/
  | compiling (kind : EntityKind) (name : String) (fields : Nat)
  /-- An entity is left out because of the failure with that text. -/
  | skipping (text : String)
  /-- A request is put under its right name. -/
  | correcting (wrong right : String)
  /-- A protocol document is requested from that address. -/
  | fetching (address : String)
  /-- The linter is started with these words. -/
  | linting (words : List String)

namespace LogRecord

/-- The part of the library that a record comes from. -/
def source : LogRecord → String
  | growth _ => "obsgen.compiler.builder"
  | compiling _ _ _ => "obsgen.generator.entities"
  | skipping _ => "obsgen.generator.entities"
  | correcting _ _ => "obsgen.source.extractor"
  | fetching _ => "obsgen.source.loader"
  | linting _ => "obsgen.lint"

/-- The wording of a record. -/
def message : LogRecord → String
  | growth (.synthesized container segment) =>
    "Synthesized " ++ container.describe ++ " for '" ++ segment ++ "'"
  | growth (.redeclared path) =>
    "Field '" ++ path ++ "' declared more than once; keeping the last"
  | compiling kind name fields =>
    "Compiling " ++ kind.spelling ++ " " ++ name ++ " (" ++ toString fields ++ " fields)"
  | skipping text => "Skipping " ++ text
  | correcting wrong right => "Renaming request " ++ wrong ++ " to " ++ right
  | fetching address => "Fetching protocol from " ++ address
  | linting words => "Running linter: " ++ " ".intercalate words

/-- The line that shows a record. -/
def line (record : LogRecord) : String :=
  "DEBUG " ++ record.source ++ ": " ++ record.message

end LogRecord
end ProtocolTypes
