import ProtocolTypes.Failure

/-!
# Accidents

What can break a run besides a reported failure: a value of an unforeseen shape, a
file that cannot be read or written, a text that cannot be encoded, markup that does not
match.  A computation that may end in either way is interrupted by one of the two.
-/

namespace ProtocolTypes

/-- The kinds of accident. -/
inductive Accident
  | wrongType
  | missingKey
  | missingItem
  | missingMember
  | badValue
  | overflow
  | badEncoding
  | isDirectory
  | fileExists
  | notDirectory
  | fileSystem
  | badMarkup
  | invalidAddress
  | noHome
  | endless
  | undecodable
  | notTextual
  | unencodable
  deriving DecidableEq, Repr

namespace Accident

/-- What an accident is, in a few words. -/
def description : Accident → String
  | wrongType => "a value of the wrong type"
  | missingKey => "a missing key"
  | missingItem => "a missing item"
  | missingMember => "a missing member"
  | badValue => "a bad value"
  | overflow => "a number out of range"
  | badEncoding => "text that is not UTF-8"
  | isDirectory => "a directory in the place of a file"
  | fileExists => "a file in the place of a directory"
  | notDirectory => "a file on the way to a place"
  | fileSystem => "a failure of the file system"
  | badMarkup => "markup that means nothing"
  | invalidAddress => "an address that is none"
  | noHome => "a home directory that cannot be told"
  | endless => "a value that is looked for in itself"
  | undecodable => "text whose encoding cannot be told"
  | notTextual => "an encoding that is none of texts"
  | unencodable => "text that cannot be encoded"

end Accident

/-- The end of a computation that has no result: a reported cause, or an accident. -/
inductive Interruption (Cause : Type)
  | reported (cause : Cause)
  | accident (accident : Accident)
  deriving Repr

namespace Interruption

variable {α β : Type}

/-- Changes the reported cause. -/
def map (change : α → β) : Interruption α → Interruption β
  | reported cause => reported (change cause)
  | accident kind => accident kind

end Interruption
end ProtocolTypes
