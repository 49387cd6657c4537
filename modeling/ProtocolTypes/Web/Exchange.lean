import ProtocolTypes.Web.ContentType

/-!
# Exchanges with the web

What is asked of a web server, and what may come back.  Names of headers are told
apart without regard to letter case.
-/

namespace ProtocolTypes

/-- A request for the page at an address. -/
structure WebRequest where
  address : String
  headers : List (String × String)
  /-- The seconds that the answer may take. -/
  timeout : Float

/-- A page as a server sends it. -/
structure WebPage where
  status : Int := 200
  headers : List (String × String) := []
  body : List UInt8 := []
  deriving DecidableEq, Repr

/-- What becomes of a request. -/
inductive WebReply
  | page (page : WebPage)
  /-- No answer comes, for that reason. -/
  | unreachable (reason : String)
  /-- Asking or answering breaks down otherwise; an address, for example, is none. -/
  | broken (accident : Accident)
  deriving DecidableEq, Repr

namespace WebPage

/-- Whether the server gives what was asked for. -/
def isSuccess (page : WebPage) : Bool :=
  200 ≤ page.status && page.status ≤ 299

/-- A header's name in lower case. -/
def foldName (name : String) : String := name.map Char.toLower

/-- The text of a header, if the page has it; headers of one name are one, with commas
between their texts. -/
def header? (page : WebPage) (name : String) : Option String :=
  let texts := page.headers.filterMap fun (other, text) =>
    if foldName other == foldName name then some text else none
  if texts.isEmpty then none else some (", ".intercalate texts)

/-- What the server says of the content. -/
def contentType (page : WebPage) : String := (page.header? "content-type").getD ""

/-- The text of the content. -/
def text [StandIns] (page : WebPage) : Except Accident String := do
  let encoding ← ContentType.encoding page.contentType
  return String.ofList (← encoding.decode page.body)

end WebPage

namespace WebReply

/-- The reply where no server is left to answer. -/
def silence : WebReply := .unreachable "no reply"

/-- The reply to a request with that number, of replies given in turn. -/
def nth (replies : List WebReply) (number : Nat) : WebReply :=
  (replies[number]?).getD silence

end WebReply
end ProtocolTypes
