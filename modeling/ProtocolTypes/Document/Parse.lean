import ProtocolTypes.Json.Read
import ProtocolTypes.Yaml.Read

/-!
# Documents from texts

A text is read as JSON and, where that fails, as YAML; what is known about its format
may rule one of them out.  Whatever the format, a document is a map.
-/

namespace ProtocolTypes

/-- What is known about the format of a text. -/
inductive FormatHint
  | unknown
  | json
  | yaml
  deriving DecidableEq, Repr

namespace FormatHint

/-- The hint of a word. -/
def ofWord (word : String) : FormatHint :=
  if word == "json" then json
  else if word == "yaml" then yaml
  else unknown

end FormatHint

/-- Why a text is no document. -/
inductive ParseFault
  /-- A text that has to be JSON is not. -/
  | invalidJson (fault : Json.Fault)
  /-- The text is neither JSON, if that was tried, nor YAML. -/
  | unreadable (json : Option Json.Fault) (yaml : Yaml.Fault)
  /-- The text stands for something else than a map. -/
  | notAMap (kind : String)
  deriving DecidableEq, Repr

namespace ParseFault

/-- The wording of a fault. -/
def message : ParseFault → String
  | invalidJson fault => "Invalid JSON: " ++ fault.message
  | unreadable json yaml =>
    "Failed to parse protocol as JSON or YAML" ++
      (match json with
        | some fault => "\n  JSON error: " ++ fault.message
        | none => "") ++
      "\n  YAML error: " ++ yaml.message
  | notAMap kind => "Protocol must be a JSON/YAML object (got " ++ kind ++ ")"

end ParseFault

namespace Document

/-- The entries of a document. -/
abbrev Entries := List (Value × Value)

/-- The outcome of reading a document. -/
abbrev Outcome := Except (Interruption ParseFault)

/-- The entries of a value that has to be a map; `emptyKind` says how a missing one is
named. -/
def entriesOf (emptyKind : String) : Value → Outcome Entries
  | .map entries => .ok entries
  | .null => .error (.reported (.notAMap emptyKind))
  | other => .error (.reported (.notAMap other.kindName))

variable [StandIns]

/-- The document of a YAML text that was no JSON for that reason. -/
def parseYaml (json : Option Json.Fault) (text : String) : Outcome Entries :=
  match Yaml.read text with
  | .ok value => entriesOf "empty document" value
  | .error (.reported fault) => .error (.reported (.unreadable json fault))
  | .error (.accident accident) => .error (.accident accident)

/-- The document of a text. -/
def parse (hint : FormatHint) (text : String) : Outcome Entries :=
  match hint with
  | .yaml => parseYaml none text
  | _ =>
    match Json.read text with
    | .ok value => entriesOf Value.null.kindName value
    | .error .hugeInteger => .error (.accident .badValue)
    | .error (.fault fault) =>
      if hint = .json then .error (.reported (.invalidJson fault))
      else parseYaml (some fault) text

end Document
end ProtocolTypes
