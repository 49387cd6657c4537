import ProtocolTypes.Document.LoadFault
import ProtocolTypes.Log
import ProtocolTypes.Protocol.Check

/-!
# Protocols from documents

A document that passes the check is a protocol, in which every request stands under
its right name.
-/

namespace ProtocolTypes

/-- A protocol, with what was noted when it was taken from a document. -/
structure Extraction where
  protocol : Protocol
  records : List LogRecord

namespace Protocol

/-- The end that the issues of a document bring about: where one is a number that cannot be
written, nothing is reported. -/
def refusal (issues : List Issue) : Interruption LoadFault :=
  if issues.any fun issue => issue.problem == .unwritableNumber then .accident .badValue
  else .reported (.refused issues)

/-- The protocol of a document value. -/
def ofValue (raw : Value) : Except (Interruption LoadFault) Extraction :=
  match rule raw with
  | .valid protocol =>
    .ok
      { protocol := protocol.corrected
        records := protocol.renamings.map fun (wrong, right) => .correcting wrong right }
  | .invalid issues => .error (refusal issues)

end Protocol
end ProtocolTypes
