/-!
# Message types

The fixed part of a generated module: the types of the messages that wrap events,
requests and responses.  They refer to the interfaces and enums around them by name.
-/

namespace ProtocolTypes
namespace MessageTypes

/-- A message from the server, by its operation code. -/
def incomingMessage : List String :=
  [ "// WebSocket Message Types",
    "export type IncomingMessage<Type = keyof IncomingMessageTypes> = Type extends keyof IncomingMessageTypes ? \x7b",
    "\top: Type;",
    "\td: IncomingMessageTypes[Type];",
    "\x7d : never;" ]

/-- A message to the server, by its operation code. -/
def outgoingMessage : List String :=
  [ "export type OutgoingMessage<Type = keyof OutgoingMessageTypes> = Type extends keyof OutgoingMessageTypes ? \x7b",
    "\top: Type;",
    "\td: OutgoingMessageTypes[Type];",
    "\x7d : never;" ]

/-- The payloads that the server sends. -/
def incomingMessageTypes : List String :=
  [ "export interface IncomingMessageTypes \x7b",
    "\t/**",
    "\t * Message sent from the server immediately on client connection. Contains authentication information if auth is required. Also contains RPC version for version negotiation.",
    "\t */",
    "\t[WebSocketOpCode.Hello]: \x7b",
    "\t\t/**",
    "\t\t * Version number of obs-websocket",
    "\t\t */",
    "\t\tobsWebSocketVersion: string;",
    "\t\t/**",
    "\t\t * Version number which gets incremented on each breaking change to the obs-websocket protocol.",
    "\t\t * It's usage in this context is to provide the current rpc version that the server would like to use.",
    "\t\t */",
    "\t\trpcVersion: number;",
    "\t\t/**",
    "\t\t * Authentication challenge when password is required",
    "\t\t */",
    "\t\tauthentication?: \x7b",
    "\t\t\tchallenge: string;",
    "\t\t\tsalt: string;",
    "\t\t\x7d;",
    "\t\x7d;",
    "\t/**",
    "\t * The identify request was received and validated, and the connection is now ready for normal operation.",
    "\t */",
    "\t[WebSocketOpCode.Identified]: \x7b",
    "\t\t/**",
    "\t\t * If rpc version negotiation succeeds, the server determines the RPC version to be used and gives it to the client",
    "\t\t */",
    "\t\tnegotiatedRpcVersion: number;",
    "\t\x7d;",
    "\t/**",
    "\t * An event coming from OBS has occured. Eg scene switched, source muted.",
    "\t */",
    "\t[WebSocketOpCode.Event]: EventMessage;",
    "\t/**",
    "\t * obs-websocket is responding to a request coming from a client",
    "\t */",
    "\t[WebSocketOpCode.RequestResponse]: ResponseMessage;",
    "\t/**",
    "\t * obs-websocket is responding to a batch request coming from a client",
    "\t */",
    "\t[WebSocketOpCode.RequestBatchResponse]: ResponseBatchMessage;",
    "\x7d" ]

/-- The payloads that a client sends. -/
def outgoingMessageTypes : List String :=
  [ "export interface OutgoingMessageTypes \x7b",
    "\t/**",
    "\t * Response to Hello message, should contain authentication string if authentication is required, along with PubSub subscriptions and other session parameters.",
    "\t */",
    "\t[WebSocketOpCode.Identify]: \x7b",
    "\t\t/**",
    "\t\t * Version number that the client would like the obs-websocket server to use",
    "\t\t */",
    "\t\trpcVersion: number;",
    "\t\t/**",
    "\t\t * Authentication challenge response",
    "\t\t */",
    "\t\tauthentication?: string;",
    "\t\t/**",
    "\t\t * Bitmask of `EventSubscription` items to subscribe to events and event categories at will. By default, all event categories are subscribed, except for events marked as high volume. High volume events must be explicitly subscribed to.",
    "\t\t */",
    "\t\teventSubscriptions?: number;",
    "\t\x7d;",
    "\t/**",
    "\t * Sent at any time after initial identification to update the provided session parameters.",
    "\t */",
    "\t[WebSocketOpCode.Reidentify]: \x7b",
    "\t\t/**",
    "\t\t * Bitmask of `EventSubscription` items to subscribe to events and event categories at will. By default, all event categories are subscribed, except for events marked as high volume. High volume events must be explicitly subscribed to.",
    "\t\t */",
    "\t\teventSubscriptions?: number;",
    "\t\x7d;",
    "\t/**",
    "\t * Client is making a request to obs-websocket. Eg get current scene, create source.",
    "\t */",
    "\t[WebSocketOpCode.Request]: RequestMessage;",
    "\t/**",
    "\t * Client is making a batch request to obs-websocket.",
    "\t */",
    "\t[WebSocketOpCode.RequestBatch]: RequestBatchMessage;",
    "\x7d" ]

/-- An event by its name. -/
def eventMessage : List String :=
  [ "type EventMessage<T = keyof OBSEventTypes> = T extends keyof OBSEventTypes ? \x7b",
    "\teventType: T;",
    "\t/**",
    "\t * The original intent required to be subscribed to in order to receive the event.",
    "\t */",
    "\teventIntent: number;",
    "\teventData: OBSEventTypes[T];",
    "\x7d : never;" ]

/-- A request by its name. -/
def requestMessage : List String :=
  [ "export type RequestMessage<T = keyof OBSRequestTypes> = T extends keyof OBSRequestTypes ? \x7b",
    "\trequestType: T;",
    "\trequestId: string;",
    "\trequestData: OBSRequestTypes[T];",
    "\x7d : never;" ]

/-- A request inside a batch. -/
def requestBatchRequest : List String :=
  [ "export type RequestBatchRequest<T = keyof OBSRequestTypes> = T extends keyof OBSRequestTypes ? OBSRequestTypes[T] extends never ? \x7b",
    "\trequestType: T;",
    "\trequestId?: string;",
    "\x7d : \x7b",
    "\trequestType: T;",
    "\trequestId?: string;",
    "\trequestData: OBSRequestTypes[T];",
    "\x7d : never;" ]

/-- How a batch is run. -/
def requestBatchOptions : List String :=
  [ "export type RequestBatchOptions = \x7b",
    "\t/**",
    "\t * The mode of execution obs-websocket will run the batch in",
    "\t */",
    "\texecutionType?: RequestBatchExecutionType;",
    "\t/**",
    "\t * Whether obs-websocket should stop executing the batch if one request fails",
    "\t */",
    "\thaltOnFailure?: boolean;",
    "\x7d" ]

/-- A batch of requests. -/
def requestBatchMessage : List String :=
  [ "export type RequestBatchMessage = Merge<RequestBatchOptions, \x7b",
    "\trequestId: string;",
    "\trequests: RequestBatchRequest[];",
    "\x7d>;" ]

/-- The response to a request. -/
def responseMessage : List String :=
  [ "export type ResponseMessage<T = keyof OBSResponseTypes> = T extends keyof OBSResponseTypes ? \x7b",
    "\trequestType: T;",
    "\trequestId: string;",
    "\trequestStatus: \x7bresult: true; code: number\x7d | \x7bresult: false; code: number; comment: string\x7d;",
    "\tresponseData: OBSResponseTypes[T];",
    "\x7d : never;" ]

/-- The responses to a batch. -/
def responseBatchMessage : List String :=
  [ "export type ResponseBatchMessage = \x7b",
    "\trequestId: string;",
    "\tresults: ResponseMessage[];",
    "\x7d" ]

/-- All message types, each followed by an empty line. -/
def lines : List String :=
  [ incomingMessage,
    outgoingMessage,
    incomingMessageTypes,
    outgoingMessageTypes,
    eventMessage,
    requestMessage,
    requestBatchRequest,
    requestBatchOptions,
    requestBatchMessage,
    responseMessage,
    responseBatchMessage ].flatMap fun declaration => declaration ++ [""]

end MessageTypes
end ProtocolTypes
