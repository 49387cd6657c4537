import ProtocolTypes.Accident
import ProtocolTypes.Protocol.Basic
import ProtocolTypes.TypeTree.Render

/-!
# Overloads

One overload of `call` for every request and one of `on` for every event, each under
a documentation block.  A request without parameters takes optional data that never
exists; every other refers to its member of the request interface.
-/

namespace ProtocolTypes
namespace Overloads

/-- The documentation of an overload, given the complexity as it is written. -/
def documentation
    (description category initialVersion rpcVersion complexity : String)
    (deprecated : Bool) :
    List String :=
  Text.splitAt '\n' description ++
    [ "",
      "@category " ++ category,
      "@initialVersion " ++ initialVersion,
      "@rpcVersion " ++ rpcVersion,
      "@complexity " ++ complexity ] ++
    (if deprecated then ["@deprecated"] else [])

/-- The indexed access to a member of an interface. -/
def access (interface member : String) : String :=
  interface ++ "['" ++ member ++ "']"

/-- The data parameter of a request's overload. -/
def requestData (request : Request) : String :=
  if request.parameters.isEmpty then "requestData?: never"
  else "requestData: " ++ access "OBSRequestTypes" request.name

/-- The overload of a request. -/
def call (request : Request) : String :=
  "call(requestType: '" ++ request.name ++ "', " ++ requestData request ++ "): Promise<" ++
    access "OBSResponseTypes" request.name ++ ">;"

/-- The overload of an event. -/
def on (event : Event) : String :=
  "on(event: '" ++ event.name ++ "', listener: (data: " ++
    access "OBSEventTypes" event.name ++ ") => void): this;"

/-- The documentation block and the overload of a request, unless its complexity has too
many digits to be written. -/
def requestLines? (request : Request) : Option (List String) :=
  (Digits.text? request.complexity).map fun complexity =>
    [ DocBlock.text (documentation request.description request.category
        request.initialVersion request.rpcVersion complexity request.deprecated),
      call request ]

/-- The documentation block and the overload of an event, under the same condition. -/
def eventLines? (event : Event) : Option (List String) :=
  (Digits.text? event.complexity).map fun complexity =>
    [ DocBlock.text (documentation event.description event.category event.initialVersion
        event.rpcVersion complexity event.deprecated),
      on event ]

/-- The lines of all overloads of a protocol, requests first. -/
def lines? (protocol : Protocol) : Option (List String) := do
  let requests ← protocol.requests.mapM requestLines?
  let events ← protocol.events.mapM eventLines?
  return requests.flatten ++ events.flatten

/-- All overloads of a protocol. -/
def text (protocol : Protocol) : Except Accident String :=
  match lines? protocol with
  | some lines => .ok (Text.joinLines lines)
  | none => .error .badValue

end Overloads
end ProtocolTypes
