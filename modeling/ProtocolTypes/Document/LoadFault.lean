import ProtocolTypes.Document.Parse
import ProtocolTypes.Failure

/-!
# Faults of loading

Why a protocol document could not be had: there is none at the place that was named,
it cannot be read, or it is no protocol.
-/

namespace ProtocolTypes

/-- Why a protocol could not be loaded. -/
inductive LoadFault
  | noInput
  | fileNotFound (path : String)
  | fileEmpty (path : String)
  | badStatus (status : Int) (address : String)
  | unreachable (address reason : String)
  | noReleaseTag (repository : String)
  | unreadable (fault : ParseFault)
  | refused (issues : List Issue)

namespace LoadFault

/-- The report of a fault. -/
def report : LoadFault → Failure
  | noInput => failed "No input received from stdin"
  | fileNotFound path => failed ("Protocol file not found: " ++ path)
  | fileEmpty path => failed ("Protocol file is empty: " ++ path)
  | badStatus status address =>
    failed ("HTTP " ++ toString status ++ " fetching " ++ address)
  | unreachable address reason => failed ("Failed to fetch " ++ address ++ ": " ++ reason)
  | noReleaseTag repository =>
    failed ("Latest release of " ++ repository ++ " has no tag_name")
  | unreadable fault => failed fault.message
  | refused issues => .refusal .protocolLoad "Invalid protocol document" "Protocol" issues
where
  /-- The failure with that wording. -/
  failed (wording : String) : Failure := { kind := .protocolLoad, wording := wording }

@[simp]
theorem kind_report (fault : LoadFault) : fault.report.kind = .protocolLoad := by
  cases fault <;> rfl

end LoadFault
end ProtocolTypes
