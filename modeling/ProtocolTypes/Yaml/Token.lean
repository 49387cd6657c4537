import ProtocolTypes.Accident
import ProtocolTypes.Yaml.Cursor
import ProtocolTypes.Yaml.Fault

/-!
# YAML tokens

The words that a YAML text is made of.  Besides the visible ones there are those that
indentation stands for: the start and the end of a block, and the key whose colon
comes only after it.
-/

namespace ProtocolTypes
namespace Yaml

/-- A token of a YAML text. -/
inductive Token
  | versionDirective (major : Nat)
  | tagDirective (handle expansion : String)
  | reservedDirective
  | documentStart
  | documentEnd
  | streamEnd
  | blockSequenceStart
  | blockMappingStart
  | blockEnd
  | flowSequenceStart
  | flowSequenceEnd
  | flowMappingStart
  | flowMappingEnd
  | blockEntry
  | flowEntry
  | key
  | value
  | alias (name : String)
  | anchor (name : String)
  | tag (handle : Option String) (suffix : String)
  | scalar (text : String) (plain : Bool)
  deriving DecidableEq, Repr

/-- The outcome of a step over a text: mostly what it read, and the place after it. -/
abbrev Scan := Except (Interruption Fault)

/-- The step that fails. -/
def refuse {α : Type} (fault : Fault) : Scan α :=
  .error (.reported fault)

/-- The tokens of a text as far as they can be told, and what keeps the next one from being
told if it is asked for. -/
structure Words where
  tokens : List Token
  cause : Option (Interruption Fault) := none

end Yaml
end ProtocolTypes
