import NodeGate.Address
import NodeGate.Channel
import NodeGate.Identity

/-!
# Security contexts

What is known of one request once it is admitted: where it came from, on whose behalf, and how
far its sender is trusted. A context is a value that goes with its request; nothing is shared.
-/

namespace NodeGate

/-- Where a request semantically originated. -/
inductive Origin where
  | local
  | transport
  | rest
  deriving DecidableEq, Repr

namespace Origin

/-- The text of an origin in a header. -/
def name : Origin → String
  | .local => "LOCAL"
  | .transport => "TRANSPORT"
  | .rest => "REST"

/-- The origin that a text names, letter case included. -/
def ofName? (name : String) : Option Origin :=
  if name = "LOCAL" then some .local
  else if name = "TRANSPORT" then some .transport
  else if name = "REST" then some .rest
  else none

/-- What is said of a text that names no origin. -/
def unknownMessage (name : String) : String :=
  "unknown origin '" ++ name ++ "'"

end Origin

/-- How far the peer of a network channel is trusted. -/
inductive Trust where
  /-- A verified node of our own cluster. -/
  | interCluster
  /-- A verified node of another cluster. -/
  | remoteCluster
  /-- A regular caller. -/
  | untrusted
  deriving DecidableEq, Repr

namespace Trust

/-- The name of a degree of trust. -/
def name : Trust → String
  | .interCluster => "inter_cluster"
  | .remoteCluster => "remote_cluster"
  | .untrusted => "untrusted"

/-- Both kinds of node are trusted. -/
def isTrusted : Trust → Bool
  | .untrusted => false
  | _ => true

end Trust

/-- The security facts of one request. -/
structure SecurityContext where
  channelKind : Option ChannelKind := none
  origin : Option Origin := none
  identity : Option Identity := none
  remoteAddress : Option Address := none
  /-- Set on network channels only. -/
  trust : Option Trust := none
  /-- The verified principal of the socket peer. -/
  principal : Option String := none
  action : String
  actionClass : String
  /-- The logical action class of the first request of the chain. -/
  initialActionClass : Option String := none
  /-- Set for shard searches that carry a suggest section. -/
  isSuggest : Bool := false
  deriving DecidableEq, Repr

namespace SecurityContext

/-- A request is locally authorized when the cluster issued it itself: its origin is local, and it
was delivered inside the node or sent by a node of the same cluster. -/
def isLocallyAuthorized (context : SecurityContext) : Bool :=
  context.origin = some .local &&
    (context.channelKind = some .direct || context.trust = some .interCluster)

/-- The name of the identity for logs. -/
def displayName (context : SecurityContext) : String :=
  match context.identity with
  | some identity => identity.name
  | none => "<none>"

/-- The context with an address set where there is one. -/
def withAddress? (context : SecurityContext) (address : Option Address) : SecurityContext :=
  match address with
  | some address => { context with remoteAddress := some address }
  | none => context

end SecurityContext

end NodeGate
