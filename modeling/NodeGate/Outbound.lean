import NodeGate.HeaderValue
import NodeGate.Headers
import NodeGate.SecurityContext

/-!
# Outbound headers

The headers by which a node hands the context of an admitted request on, to itself or to a peer.
The receiving node's admission reads them back.
-/

namespace NodeGate.Outbound

/-- The headers that every outgoing request has: the name of the sending cluster. -/
def base (cluster : String) : Headers :=
  Headers.empty.insert Headers.clusterName cluster

/-- The headers that carry a context on. -/
def ofContext (cluster : String) (context : SecurityContext) : Headers :=
  (base cluster)
    |>.insert? Headers.userName (context.identity.map HeaderValue.encodeIdentity)
    |>.insert? Headers.remoteAddressName (context.remoteAddress.map HeaderValue.encodeAddress)
    |>.insert? Headers.originName (context.origin.map (·.name))
    |>.insert? Headers.initialClassName context.initialActionClass

/-- The headers of a request that a node issues on its own behalf. -/
def ofNode (cluster : String) : Headers :=
  (base cluster).insert Headers.originName Origin.local.name

end NodeGate.Outbound
