import ProtocolTypes.Yaml.Building
import ProtocolTypes.Yaml.Unrolling

/-!
# Reading YAML

A YAML text to the value that its document stands for.
-/

namespace ProtocolTypes
namespace Yaml

/-- The value of a YAML text: that of its document, or null without one. -/
def read [StandIns] (text : String) : Except (Interruption Fault) Value := do
  match ← RootedGraph.ofWords? (Words.ofText text) with
  | none => return .null
  | some document =>
    let objects ← Building.ofDocument document
    return Unrolling.value objects document.root

end Yaml
end ProtocolTypes
