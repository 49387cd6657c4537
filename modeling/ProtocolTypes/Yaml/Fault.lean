/-!
# Faults of a YAML text

What can be wrong with a YAML text, from its characters up to the values that its
nodes stand for.
-/

namespace ProtocolTypes
namespace Yaml

/-- What is wrong with a YAML text. -/
inductive Fault
  | unprintableCharacter
  | unexpectedCharacter
  | missingColon
  | misplacedEntry
  | misplacedKey
  | misplacedValue
  | badDirective
  | badName
  | badTag
  | badBlockHeader
  | badEscape
  | unterminatedScalar
  | unexpectedToken
  | undefinedHandle
  | repeatedDirective
  | unsupportedVersion
  | undefinedAlias
  | repeatedAnchor
  | endlessNode
  | severalDocuments
  | unknownTag
  | wrongNode
  | unusableKey
  | badMerge
  | badBinary
  deriving DecidableEq, Repr

namespace Fault

/-- The wording of a fault. -/
def message : Fault → String
  | unprintableCharacter => "special characters are not allowed"
  | unexpectedCharacter => "found a character that cannot start any token"
  | missingColon => "could not find expected ':'"
  | misplacedEntry => "sequence entries are not allowed here"
  | misplacedKey => "mapping keys are not allowed here"
  | misplacedValue => "mapping values are not allowed here"
  | badDirective => "found a directive that cannot be read"
  | badName => "found an anchor or alias that cannot be read"
  | badTag => "found a tag that cannot be read"
  | badBlockHeader => "found a block scalar header that cannot be read"
  | badEscape => "found an unknown escape character"
  | unterminatedScalar => "found the end of the document in a quoted scalar"
  | unexpectedToken => "found a token that is not expected here"
  | undefinedHandle => "found an undefined tag handle"
  | repeatedDirective => "found a directive twice"
  | unsupportedVersion => "version 1 is required"
  | undefinedAlias => "found an undefined alias"
  | repeatedAnchor => "found an anchor twice"
  | endlessNode => "found a node that holds itself"
  | severalDocuments => "expected a single document"
  | unknownTag => "could not determine a constructor for a tag"
  | wrongNode => "found a node of a kind that the tag is not for"
  | unusableKey => "found an unusable key"
  | badMerge => "expected a mapping or a list of mappings for merging"
  | badBinary => "could not decode binary data"

end Fault
end Yaml
end ProtocolTypes
