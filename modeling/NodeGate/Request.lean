import NodeGate.Headers
import NodeGate.SecurityContext

/-!
# Transport requests

A request on the internal transport: an action, headers, the socket address of the sender and the
shape of the payload as far as auditing cares.
-/

namespace NodeGate

/-- The shape of a request's payload. -/
inductive Payload where
  /-- Any request, named by its class. -/
  | named (name : String)
  /-- A bulk request routed to one shard, with the classes of its items. -/
  | bulkShard (items : List String)
  /-- A replication wrapper around one request. -/
  | concreteShard (inner : String)
  /-- The shard phase of a search. -/
  | shardSearch (suggest : Bool)
  deriving DecidableEq, Repr

namespace Payload

/-- The class of the operation that is meant: one layer of batching or shard routing is taken
off. -/
def logicalClass : Payload → String
  | .named name => name
  | .bulkShard [item] => item
  | .bulkShard _ => "BulkShardRequest"
  | .concreteShard inner => inner
  | .shardSearch _ => "ShardSearchTransportRequest"

/-- Whether the payload carries a suggest section. -/
def isSuggest : Payload → Bool
  | .shardSearch suggest => suggest
  | _ => false

end Payload

/-- What an audit record knows of the request that caused it. -/
structure RequestSummary where
  action : String := ""
  requestClass : String := ""
  remoteAddress : Option Address := none
  user : Option String := none
  origin : Option String := none
  deriving DecidableEq, Repr

/-- A request received on the internal transport. -/
structure Request where
  action : String
  headers : Headers := Headers.empty
  /-- The socket address of the peer, if known. -/
  remoteAddress : Option Address := none
  payload : Payload := .named "TransportRequest"
  deriving DecidableEq, Repr

namespace Request

/-- The action by which nodes meet. -/
def handshakeAction : String := "internal:transport/handshake"

/-- Internal actions are reserved for traffic between nodes. -/
def isInternal (request : Request) : Bool :=
  "internal:".toList.isPrefixOf request.action.toList

/-- Actions routed to a shard carry a phase in square brackets. -/
def isShardLevel (request : Request) : Bool :=
  request.action.toList.contains '['

/-- Whether the request is the handshake. -/
def isHandshake (request : Request) : Bool :=
  request.action = handshakeAction

/-- The request with other headers set over its own. -/
def withHeaders (request : Request) (headers : Headers) : Request :=
  { request with headers := request.headers.insertAll headers.toList }

/-- The audit view of a request, with what its context already knows. -/
def summary (request : Request) (context : Option SecurityContext) : RequestSummary where
  action := request.action
  requestClass := request.payload.logicalClass
  remoteAddress := (context.bind (·.remoteAddress)) <|> request.remoteAddress
  user := (context.bind (·.identity)).map (·.name)
  origin := (context.bind (·.origin)).map (·.name)

end Request

end NodeGate
