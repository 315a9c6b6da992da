import NodeGate.Authentication
import NodeGate.GuardError
import NodeGate.HeaderValue
import NodeGate.Request

/-!
# Admission

The stages by which a request becomes a security context or is refused. `screen` goes through
every stage that needs no backend; for a caller that is no node it ends by asking who the
principal is, and `settle` goes on with the answer. A refusal keeps the context as far as it was
filled, since that is what its audit record may say.

- A closed channel and an unknown kind of channel are refused.
- A direct channel delivers what this node admitted before: forwarded values are taken.
- On a network channel the peer is classified. Internal and shard actions are refused unless the
  peer is a node or the action is the handshake, and a principal is required.
- A node forwards the identity it authenticated. Any other peer may send no private header and is
  authenticated here.
-/

namespace NodeGate.Admission

/-- What admission depends on besides the request and its channel. -/
structure Policy where
  clusterName : String
  /-- Whether a peer with these local and peer certificates and this principal is a node. -/
  recognises : Request → List Certificate → List Certificate → String → Bool
  /-- What the backend answers about a principal for an action. -/
  authenticate : Request → String → String → BackendAnswer
  /-- The words for forwarded values that do not decode. -/
  complaints : HeaderValue.Complaints

/-- Whether a verified peer of the channel is recognised as a node. -/
def Policy.recognisesPeer (policy : Policy) (request : Request) (channel : Channel) : Bool :=
  match channel.principal with
  | some principal =>
    policy.recognises request channel.localCertificates channel.peerCertificates principal
  | none => false

/-- The trust in the peer of a network channel. A node is of our cluster when it names ours. -/
def Policy.classify (policy : Policy) (request : Request) (channel : Channel) : Trust :=
  if policy.recognisesPeer request channel then
    if request.headers.get? Headers.clusterName = some policy.clusterName then .interCluster
    else .remoteCluster
  else .untrusted

/-- A refusal with the context as far as it was filled. -/
structure Refusal where
  error : GuardError
  context : SecurityContext
  deriving DecidableEq, Repr

/-- Where screening ends when it does not refuse. -/
inductive Screening where
  /-- Nobody needs to be asked. -/
  | admitted (context : SecurityContext)
  /-- The backend has to say who the principal is. -/
  | consult (principal : String) (context : SecurityContext)
  deriving DecidableEq, Repr

/-- The context with the forwarded identity, where one is forwarded. -/
def takeIdentity (complaints : HeaderValue.Complaints) (request : Request)
    (context : SecurityContext) : Except Refusal SecurityContext :=
  match request.headers.get? Headers.userName with
  | none => .ok context
  | some value =>
    match HeaderValue.decodeIdentity value with
    | .ok identity => .ok { context with identity := some identity }
    | .error fault =>
      let reason := fault.message complaints.identity
      .error ⟨.malformedHeader Headers.userName reason, context⟩

/-- The context with the forwarded address, or else the one given, where there is either. -/
def takeAddress (complaints : HeaderValue.Complaints) (request : Request)
    (otherwise : Option Address) (context : SecurityContext) : Except Refusal SecurityContext :=
  match request.headers.get? Headers.remoteAddressName with
  | none => .ok (context.withAddress? otherwise)
  | some value =>
    match HeaderValue.decodeAddress value with
    | .ok address => .ok { context with remoteAddress := some address }
    | .error fault =>
      let reason := fault.message complaints.address
      .error ⟨.malformedHeader Headers.remoteAddressName reason, context⟩

/-- The context with the forwarded origin, where one is forwarded. -/
def takeOrigin (request : Request) (context : SecurityContext) :
    Except Refusal SecurityContext :=
  match request.headers.get? Headers.originName with
  | none => .ok context
  | some value =>
    match Origin.ofName? value with
    | some origin => .ok { context with origin := some origin }
    | none => .error ⟨.malformedHeader Headers.originName (Origin.unknownMessage value), context⟩

/-- The context with all forwarded values. -/
def takeForwarded (complaints : HeaderValue.Complaints) (request : Request)
    (otherwise : Option Address) (context : SecurityContext) :
    Except Refusal SecurityContext := do
  let context ← takeIdentity complaints request context
  let context ← takeAddress complaints request otherwise context
  takeOrigin request context

/-- The context with the action class that its chain began with. -/
def stamp (request : Request) (context : SecurityContext) : SecurityContext :=
  let initial := (request.headers.get? Headers.initialClassName).getD context.actionClass
  { context with initialActionClass := some initial }

/-- The last stage on a network channel: the origin is the transport unless another is known. -/
def complete (request : Request) (context : SecurityContext) : SecurityContext :=
  stamp request { context with origin := context.origin <|> some .transport }

/-- The context before any stage. -/
def initialContext (request : Request) : SecurityContext where
  action := request.action
  actionClass := request.payload.logicalClass
  isSuggest := request.payload.isSuggest

/-- Whether only a node may send the request: it is internal or routed to a shard, and it is not
the handshake. -/
def isReserved (request : Request) : Bool :=
  !request.isHandshake && (request.isInternal || request.isShardLevel)

/-- The stages on a direct channel. -/
def screenDirect (policy : Policy) (request : Request) : Except Refusal Screening := do
  let context := { initialContext request with channelKind := some .direct }
  return .admitted (stamp request (← takeForwarded policy.complaints request none context))

/-- The stages on a network channel. -/
def screenNetwork (policy : Policy) (request : Request) (channel : Channel) :
    Except Refusal Screening :=
  let trust := policy.classify request channel
  let context :=
    { initialContext request with channelKind := some .network, trust := some trust }
  if !trust.isTrusted && isReserved request then
    .error ⟨.internalActionForbidden request.action, context⟩
  else
    match channel.principal with
    | none => .error ⟨.missingCredential ChannelKind.network.name, context⟩
    | some principal =>
      let context := { context with principal := some principal }
      if trust.isTrusted then do
        let context ← takeForwarded policy.complaints request request.remoteAddress context
        return .admitted (complete request context)
      else
        match request.headers.firstPrivate? with
        | some header => .error ⟨.forgedIdentityHeader header, context⟩
        | none => .ok (.consult principal context)

/-- Every stage that needs no backend. -/
def screen (policy : Policy) (request : Request) (channel : Channel) : Except Refusal Screening :=
  if channel.isClosed then .error ⟨.channelClosed, initialContext request⟩
  else
    match channel.kind? with
    | none => .error ⟨.channelUnsupported channel.typeName, initialContext request⟩
    | some .direct => screenDirect policy request
    | some .network => screenNetwork policy request channel

/-- What admission comes to. -/
inductive Verdict where
  | dispatched (context : SecurityContext)
  | rejected (refusal : Refusal)
  /-- The backend does not answer. -/
  | waiting (context : SecurityContext)
  deriving DecidableEq, Repr

/-- The stages after the backend's answer. -/
def settle (request : Request) (context : SecurityContext) : BackendAnswer → Verdict
  | .known identity =>
    match request.remoteAddress with
    | none => .rejected ⟨.missingRemoteAddress, context⟩
    | some address =>
      .dispatched (complete request
        { context with identity := some identity, remoteAddress := some address })
  | .unknown =>
    if isUnauthenticatedAction request.action then
      .dispatched (complete request (context.withAddress? request.remoteAddress))
    else .rejected ⟨.authenticationFailed request.action, context⟩
  | .failed failure => .rejected ⟨.authenticatorFailure failure.message, context⟩
  | .pending => .waiting context

/-- A question to the backend. -/
structure BackendCall where
  principal : String
  action : String
  deriving DecidableEq, Repr

/-- What admission comes to, with the questions that it put to the backend on the way. -/
structure Course where
  calls : List BackendCall
  verdict : Verdict

/-- Ask the backend who a principal is, and go on with its answer. -/
def Policy.ask (policy : Policy) (request : Request) (principal : String)
    (proceed : BackendAnswer → Verdict) : Course where
  calls := [⟨principal, request.action⟩]
  verdict := proceed (policy.authenticate request principal request.action)

/-- All stages. -/
def course (policy : Policy) (request : Request) (channel : Channel) : Course :=
  match screen policy request channel with
  | .error refusal => ⟨[], .rejected refusal⟩
  | .ok (.admitted context) => ⟨[], .dispatched context⟩
  | .ok (.consult principal context) => policy.ask request principal (settle request context)

/-- The verdict of all stages. -/
def judge (policy : Policy) (request : Request) (channel : Channel) : Verdict :=
  (course policy request channel).verdict

end NodeGate.Admission
