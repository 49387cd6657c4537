import ProtocolTypes.Document.LoadFault
import ProtocolTypes.Document.Origin
import ProtocolTypes.Log
import ProtocolTypes.Storage.Basic
import ProtocolTypes.Text.Blank

/-!
# Loading documents

A document from its origin: the text is brought in, and then read with what is known
about its format.  From the repository it takes one request where a commit is named,
and otherwise one more before it, for the tag of the latest release.
-/

namespace ProtocolTypes

/-- What a document can be loaded from. -/
structure DocumentSources where
  storage : Storage := {}
  standardInput : String := ""
  /-- The replies of web servers to the requests, in turn. -/
  replies : List WebReply := []

/-- A document, with the requests that were made for it and what was noted. -/
structure Loading where
  result : Except (Interruption LoadFault) Document.Entries
  requests : List WebRequest := []
  records : List LogRecord := []

namespace Document

/-- The result of a part of loading. -/
abbrev Loaded (α : Type) := Except (Interruption LoadFault) α

variable [StandIns]

/-- The document of a text. -/
def entriesOfText (hint : FormatHint) (text : String) : Loaded Entries :=
  match parse hint text with
  | .ok entries => .ok entries
  | .error cause => .error (cause.map .unreadable)

/-- The document on standard input. -/
def entriesOfInput (text : String) : Loaded Entries :=
  if Text.isBlankText text then .error (.reported .noInput)
  else entriesOfText .unknown text

/-- The document that the reply to a request for that address holds. -/
def entriesOfReply (address : String) : WebReply → Loaded Entries
  | .unreachable reason => .error (.reported (.unreachable address reason))
  | .broken accident => .error (.accident accident)
  | .page page =>
    if page.isSuccess then do
      let text ← page.text.mapError .accident
      entriesOfText (FormatHint.ofContentType page.contentType) text
    else .error (.reported (.badStatus page.status address))

/-- The text of the file of that name. -/
def fileText (storage : Storage) (name : String) : Loaded String :=
  match storage.readFile? (FilePath.ofText name) with
  | .error accident => .error (.accident accident)
  | .ok none => .error (.reported (.fileNotFound name))
  | .ok (some content) => (Storage.textOf content).mapError .accident

/-- The document in the file of that name. -/
def entriesOfFile (storage : Storage) (name : String) : Loaded Entries := do
  let text ← fileText storage name
  if Text.isBlankText text then .error (.reported (.fileEmpty name))
  else entriesOfText (FormatHint.ofExtension (FilePath.ofText name).extension) text

omit [StandIns] in
/-- The tag that a release is known by. -/
def releaseTag (repository : String) (release : Entries) : Loaded String :=
  match Value.entry? "tag_name" release with
  | some (.str tag) =>
    if tag.isEmpty then .error (.reported (.noReleaseTag repository)) else .ok tag
  | _ => .error (.reported (.noReleaseTag repository))

/-- The document of a commit, by the reply to its request; the requests made before it
come first. -/
def loadCommit
    (settings : Settings)
    (before : List WebRequest)
    (reply : WebReply)
    (commit : String) :
    Loading :=
  let address := WebRequest.documentAddress settings.repository commit
  { result := entriesOfReply address reply
    requests := before ++ [.of settings address]
    records := [.fetching address] }

/-- The document of the repository. -/
def loadRepository (settings : Settings) (replies : List WebReply) : Loading :=
  match settings.namedCommit? with
  | some commit => loadCommit settings [] (WebReply.nth replies 0) commit
  | none =>
    let address := WebRequest.latestAddress settings.repository
    let requests := [WebRequest.of settings address]
    let release := entriesOfReply address (WebReply.nth replies 0)
    match release >>= releaseTag settings.repository with
    | .ok tag => loadCommit settings requests (WebReply.nth replies 1) tag
    | .error cause => { result := .error cause, requests := requests }

/-- The document of an origin. -/
def load (origin : Origin) (settings : Settings) (sources : DocumentSources) : Loading :=
  match origin with
  | .repository => loadRepository settings sources.replies
  | .standardInput => { result := entriesOfInput sources.standardInput }
  | .web address =>
    { result := entriesOfReply address (WebReply.nth sources.replies 0)
      requests := [.of settings address] }
  | .file name => { result := entriesOfFile sources.storage name }

end Document
end ProtocolTypes
