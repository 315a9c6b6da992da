/-!
# Transport channels

What the transport reports of the channel that a request arrived on: the kind of channel, the
verified certificates with the principal they name, and whether the channel is closed.
-/

namespace NodeGate

/-- What is known of a certificate: its subject and the object identifiers of its extensions. -/
structure Certificate where
  subject : String
  oids : List String := []
  deriving DecidableEq, Repr

/-- The kinds of channel on which requests are accepted. -/
inductive ChannelKind where
  /-- Delivered inside the node, after an earlier admission. -/
  | direct
  /-- Arrived over the network. -/
  | network
  deriving DecidableEq, Repr

namespace ChannelKind

/-- The name under which the transport reports a kind of channel. -/
def name : ChannelKind → String
  | .direct => "direct"
  | .network => "netty"

/-- The kind that a reported name stands for. -/
def ofName? (name : String) : Option ChannelKind :=
  if name = "direct" then some .direct
  else if name = "netty" then some .network
  else none

end ChannelKind

/-- A channel as the transport reports it. -/
structure Channel where
  /-- The reported name of the kind, if any. -/
  type : Option String := none
  /-- The principal of the verified peer certificate, if there is one. -/
  principal : Option String := none
  peerCertificates : List Certificate := []
  localCertificates : List Certificate := []
  isClosed : Bool := false
  deriving DecidableEq, Repr

namespace Channel

/-- The kind of the channel, where it is one that is accepted. -/
def kind? (channel : Channel) : Option ChannelKind :=
  channel.type.bind ChannelKind.ofName?

/-- The reported name of the kind, or a stand-in when nothing was reported. -/
def typeName (channel : Channel) : String :=
  channel.type.getD "<none>"

/-- The channel once its connection has gone. -/
def close (channel : Channel) : Channel :=
  { channel with isClosed := true }

end Channel

end NodeGate
