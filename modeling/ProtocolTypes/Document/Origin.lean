import ProtocolTypes.Settings.Basic
import ProtocolTypes.Storage.Path
import ProtocolTypes.Web.Exchange
import ProtocolTypes.Document.Parse

/-!
# Origins of documents

Where a protocol document may come from, the requests that bring it in from the web,
and what is known about the format of its text.
-/

namespace ProtocolTypes

/-- Where a document comes from. -/
inductive Origin
  /-- The repository that the settings name. -/
  | repository
  | standardInput
  | web (address : String)
  /-- The file of a path, as it was written. -/
  | file (path : String)
  deriving DecidableEq, Repr

namespace Origin

/-- Whether a text is an address on the web. -/
def isAddress (text : String) : Bool :=
  "http://".toList.isPrefixOf text.toList || "https://".toList.isPrefixOf text.toList

/-- The origin that is asked for; where none is, it is the repository. -/
def ofText? : Option String → Origin
  | none => repository
  | some text =>
    if text == "-" then standardInput
    else if isAddress text then web text
    else file text

end Origin

namespace FormatHint

/-- Whether a word stands somewhere in a text. -/
def occursIn (word : List Char) : List Char → Bool
  | [] => word.isEmpty
  | character :: rest => word.isPrefixOf (character :: rest) || occursIn word rest

@[inherit_doc occursIn]
def mentions (word text : String) : Bool := occursIn word.toList text.toList

/-- The hint of a page's content type. -/
def ofContentType (text : String) : FormatHint :=
  if mentions "json" text then json
  else if mentions "yaml" text || mentions "yml" text then yaml
  else unknown

/-- The hint of a file's extension. -/
def ofExtension (extension : String) : FormatHint :=
  if extension == ".json" then json
  else if extension == ".yaml" || extension == ".yml" then yaml
  else unknown

end FormatHint

namespace WebRequest

/-- The headers of every request. -/
def headersFor (token : Option String) : List (String × String) :=
  ("Accept", "application/json") ::
    match token with
    | some token => if token.isEmpty then [] else [("Authorization", "token " ++ token)]
    | none => []

/-- The request for an address, by those settings. -/
def of (settings : Settings) (address : String) : WebRequest :=
  { address := address
    headers := headersFor settings.token
    timeout := settings.timeout }

/-- The address of the document at a commit of the repository. -/
def documentAddress (repository commit : String) : String :=
  "https://raw.githubusercontent.com/" ++ repository ++ "/" ++ commit ++
    "/docs/generated/protocol.json"

/-- The address of what is known about the repository's latest release. -/
def latestAddress (repository : String) : String :=
  "https://api.github.com/repos/" ++ repository ++ "/releases/latest"

end WebRequest
end ProtocolTypes
