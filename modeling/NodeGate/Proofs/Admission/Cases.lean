import NodeGate.Admission

/-!
# The senders that admission tells apart

A request reaches an open channel from the node itself, from a recognised node, from a verified
caller that is no node, or from a peer without a principal. One equation for each says which course
admission takes, with the questions asked on the way and the verdict, so that later results need
not go through the stages again. A closed channel and an unknown kind of channel never dispatch.
`sender` says that this is all there is.
-/

namespace NodeGate.Admission

variable {policy : Policy} {request : Request} {channel : Channel} {principal : String}

/-- The question that admission puts to the backend, if any. -/
def backendCall? (policy : Policy) (request : Request) (channel : Channel) : Option BackendCall :=
  (course policy request channel).calls.head?

/-- There is no other question. -/
theorem calls_course (policy : Policy) (request : Request) (channel : Channel) :
    (course policy request channel).calls = (backendCall? policy request channel).toList := by
  unfold backendCall? course
  split <;> rfl

/-- The channel is open and delivers within the node. -/
structure FromItself (channel : Channel) : Prop where
  isOpen : channel.isClosed = false
  direct : channel.kind? = some .direct

/-- The channel is open, and its verified peer is recognised as a node. -/
structure FromNode (policy : Policy) (request : Request) (channel : Channel)
    (principal : String) : Prop where
  isOpen : channel.isClosed = false
  network : channel.kind? = some .network
  verified : channel.principal = some principal
  recognised : policy.recognises request channel.localCertificates channel.peerCertificates
    principal = true

/-- The channel is open, and its verified peer is not recognised as a node. -/
structure FromCaller (policy : Policy) (request : Request) (channel : Channel)
    (principal : String) : Prop where
  isOpen : channel.isClosed = false
  network : channel.kind? = some .network
  verified : channel.principal = some principal
  unrecognised : policy.recognises request channel.localCertificates channel.peerCertificates
    principal = false

/-- The channel is open, and nobody was verified at its other end. -/
structure FromNobody (channel : Channel) : Prop where
  isOpen : channel.isClosed = false
  network : channel.kind? = some .network
  unverified : channel.principal = none

/-- The context of a request from the node itself before its headers are read. -/
def directContext (request : Request) : SecurityContext :=
  { initialContext request with channelKind := some .direct }

/-- The context of a request from a verified peer before its headers are read. -/
def peerContext (request : Request) (trust : Trust) (principal : String) : SecurityContext :=
  { initialContext request with
    channelKind := some .network
    trust := some trust
    principal := some principal }

/-- A channel is of a kind exactly when it is reported by the name of the kind. -/
theorem kind?_eq_some_iff {kind : ChannelKind} :
    channel.kind? = some kind ↔ channel.type = some kind.name := by
  cases reported : channel.type with
  | none => simp [Channel.kind?, reported]
  | some name =>
      simp only [Channel.kind?, reported, Option.bind_some, ChannelKind.ofName?, Option.some.injEq]
      cases kind with
      | direct =>
          by_cases direct : name = "direct"
          · simp [direct, ChannelKind.name]
          · by_cases network : name = "netty" <;> simp [direct, network, ChannelKind.name]
      | network =>
          by_cases direct : name = "direct"
          · simp [direct, ChannelKind.name]
          · by_cases network : name = "netty" <;> simp [direct, network, ChannelKind.name]

/-- A channel of an unknown kind is reported by the name of none. -/
theorem type_ne_of_kind?_eq_none (unsupported : channel.kind? = none) (kind : ChannelKind) :
    channel.type ≠ some kind.name := by
  intro reported
  rw [kind?_eq_some_iff.2 reported] at unsupported
  cases unsupported

/-- A channel that delivers within the node is not reported as one of the network. -/
theorem FromItself.type_ne_network (sender : FromItself channel) :
    channel.type ≠ some "netty" := by
  rw [kind?_eq_some_iff.1 sender.direct]
  decide

/-- The peer of a node's channel is recognised. -/
theorem FromNode.recognisesPeer_eq (sender : FromNode policy request channel principal) :
    policy.recognisesPeer request channel = true := by
  rw [Policy.recognisesPeer, sender.verified]
  exact sender.recognised

/-- The peer of a caller's channel is not recognised. -/
theorem FromCaller.recognisesPeer_eq (sender : FromCaller policy request channel principal) :
    policy.recognisesPeer request channel = false := by
  rw [Policy.recognisesPeer, sender.verified]
  exact sender.unrecognised

/-- A node is of the same cluster when it names that cluster. -/
theorem FromNode.classify_eq (sender : FromNode policy request channel principal) :
    policy.classify request channel =
      if request.headers.get? Headers.clusterName = some policy.clusterName then .interCluster
      else .remoteCluster := by
  rw [Policy.classify, sender.recognisesPeer_eq]
  rfl

/-- Nodes are trusted. -/
theorem FromNode.isTrusted (sender : FromNode policy request channel principal) :
    (policy.classify request channel).isTrusted = true := by
  rw [sender.classify_eq]
  split <;> rfl

/-- A caller is not trusted. -/
theorem FromCaller.classify_eq (sender : FromCaller policy request channel principal) :
    policy.classify request channel = .untrusted := by
  rw [Policy.classify, sender.recognisesPeer_eq]
  rfl

/-- A peer that was not verified is not trusted. -/
theorem FromNobody.classify_eq (sender : FromNobody channel) :
    policy.classify request channel = .untrusted := by
  simp [Policy.classify, Policy.recognisesPeer, sender.unverified]

/-- The node itself is taken at its word. -/
theorem FromItself.course_eq (sender : FromItself channel) :
    course policy request channel =
      { calls := []
        verdict :=
          match takeForwarded policy.complaints request none (directContext request) with
          | .ok context => .dispatched (stamp request context)
          | .error refusal => .rejected refusal } := by
  simp only [course, screen, sender.isOpen, sender.direct, screenDirect, directContext,
    Bool.false_eq_true, if_false]
  cases takeForwarded policy.complaints request none
    { initialContext request with channelKind := some .direct } <;>
    rfl

/-- The verdict on what comes from the node itself. -/
theorem FromItself.judge_eq (sender : FromItself channel) :
    judge policy request channel =
      match takeForwarded policy.complaints request none (directContext request) with
      | .ok context => .dispatched (stamp request context)
      | .error refusal => .rejected refusal := by
  rw [judge, sender.course_eq]

/-- A node is taken at its word, and its own address stands in for one it does not forward. -/
theorem FromNode.course_eq (sender : FromNode policy request channel principal) :
    course policy request channel =
      { calls := []
        verdict :=
          match takeForwarded policy.complaints request request.remoteAddress
            (peerContext request (policy.classify request channel) principal) with
          | .ok context => .dispatched (complete request context)
          | .error refusal => .rejected refusal } := by
  simp only [course, screen, sender.isOpen, sender.network, screenNetwork, sender.isTrusted,
    sender.verified, peerContext, Bool.not_true, Bool.false_and, Bool.false_eq_true, if_false,
    if_true]
  cases takeForwarded policy.complaints request request.remoteAddress
    { initialContext request with
      channelKind := some .network
      trust := some (policy.classify request channel)
      principal := some principal } <;>
    rfl

/-- The verdict on what comes from a node. -/
theorem FromNode.judge_eq (sender : FromNode policy request channel principal) :
    judge policy request channel =
      match takeForwarded policy.complaints request request.remoteAddress
        (peerContext request (policy.classify request channel) principal) with
      | .ok context => .dispatched (complete request context)
      | .error refusal => .rejected refusal := by
  rw [judge, sender.course_eq]

/-- A caller may not do what is reserved to nodes nor send private headers; beyond that the
backend is asked. -/
theorem FromCaller.course_eq (sender : FromCaller policy request channel principal) :
    course policy request channel =
      if isReserved request then
        { calls := []
          verdict := .rejected ⟨.internalActionForbidden request.action,
            { peerContext request .untrusted principal with principal := none }⟩ }
      else
        match request.headers.firstPrivate? with
        | some header =>
          { calls := []
            verdict :=
              .rejected ⟨.forgedIdentityHeader header, peerContext request .untrusted principal⟩ }
        | none =>
          policy.ask request principal
            (settle request (peerContext request .untrusted principal)) := by
  simp only [course, screen, sender.isOpen, sender.network, screenNetwork, sender.classify_eq,
    sender.verified, peerContext, Trust.isTrusted, Bool.not_false, Bool.true_and,
    Bool.false_eq_true, if_false]
  cases isReserved request with
  | true => rfl
  | false => cases request.headers.firstPrivate? <;> rfl

/-- The verdict on what comes from a caller; where the backend is asked, it decides. -/
theorem FromCaller.judge_eq (sender : FromCaller policy request channel principal) :
    judge policy request channel =
      if isReserved request then
        .rejected ⟨.internalActionForbidden request.action,
          { peerContext request .untrusted principal with principal := none }⟩
      else
        match request.headers.firstPrivate? with
        | some header =>
          .rejected ⟨.forgedIdentityHeader header, peerContext request .untrusted principal⟩
        | none =>
          settle request (peerContext request .untrusted principal)
            (policy.authenticate request principal request.action) := by
  rw [judge, sender.course_eq]
  cases isReserved request with
  | true => rfl
  | false => cases request.headers.firstPrivate? <;> rfl

/-- Without a principal a request is refused over what is reserved to nodes, or over that. -/
theorem FromNobody.course_eq (sender : FromNobody channel) :
    course policy request channel =
      { calls := []
        verdict := .rejected
          { error :=
              if isReserved request then .internalActionForbidden request.action
              else .missingCredential ChannelKind.network.name
            context := { initialContext request with
              channelKind := some .network
              trust := some .untrusted } } } := by
  simp only [course, screen, sender.isOpen, sender.network, screenNetwork, sender.classify_eq,
    sender.unverified, Trust.isTrusted, Bool.not_false, Bool.true_and, Bool.false_eq_true,
    if_false]
  cases isReserved request <;> rfl

/-- Without a principal nothing is dispatched. -/
theorem FromNobody.judge_ne_dispatched (sender : FromNobody channel)
    (context : SecurityContext) : judge policy request channel ≠ .dispatched context := by
  rw [judge, sender.course_eq]
  nofun

/-- On an open network channel the sender is a node, a caller or nobody. -/
theorem sender_of_network (policy : Policy) (request : Request) (isOpen : channel.isClosed = false)
    (network : channel.kind? = some .network) :
    (∃ principal, FromNode policy request channel principal) ∨
      (∃ principal, FromCaller policy request channel principal) ∨ FromNobody channel := by
  cases verified : channel.principal with
  | none => exact .inr (.inr ⟨isOpen, network, verified⟩)
  | some principal =>
      cases recognised : policy.recognises request channel.localCertificates
          channel.peerCertificates principal with
      | true => exact .inl ⟨principal, isOpen, network, verified, recognised⟩
      | false => exact .inr (.inl ⟨principal, isOpen, network, verified, recognised⟩)

/-- Where a request comes from: over a channel that is not accepted, or from one of the senders. -/
inductive Sender (policy : Policy) (request : Request) (channel : Channel) : Prop where
  | closed (closed : channel.isClosed = true)
  | unsupported (isOpen : channel.isClosed = false) (unsupported : channel.kind? = none)
  | itself (sender : FromItself channel)
  | node {principal : String} (sender : FromNode policy request channel principal)
  | caller {principal : String} (sender : FromCaller policy request channel principal)
  | nobody (sender : FromNobody channel)

/-- Every request comes from somewhere. -/
theorem sender (policy : Policy) (request : Request) (channel : Channel) :
    Sender policy request channel := by
  cases isOpen : channel.isClosed with
  | true => exact .closed isOpen
  | false =>
      cases kind : channel.kind? with
      | none => exact .unsupported isOpen kind
      | some kind' =>
          cases kind' with
          | direct => exact .itself ⟨isOpen, kind⟩
          | network =>
              rcases sender_of_network policy request isOpen kind with
                ⟨principal, node⟩ | ⟨principal, caller⟩ | nobody
              · exact .node node
              · exact .caller caller
              · exact .nobody nobody

/-- A closed channel is refused, whatever it is and carries. -/
theorem course_of_closed (closed : channel.isClosed = true) :
    course policy request channel =
      { calls := [], verdict := .rejected ⟨.channelClosed, initialContext request⟩ } := by
  simp only [course, screen, closed, if_true]

/-- The verdict on what comes over a closed channel. -/
theorem judge_of_closed (closed : channel.isClosed = true) :
    judge policy request channel = .rejected ⟨.channelClosed, initialContext request⟩ := by
  rw [judge, course_of_closed closed]

/-- An open channel of an unknown kind is refused. -/
theorem course_of_unsupported (isOpen : channel.isClosed = false)
    (unsupported : channel.kind? = none) :
    course policy request channel =
      { calls := []
        verdict :=
          .rejected ⟨.channelUnsupported channel.typeName, initialContext request⟩ } := by
  simp only [course, screen, isOpen, unsupported, Bool.false_eq_true, if_false]

/-- The verdict on what comes over a channel of an unknown kind. -/
theorem judge_of_unsupported (isOpen : channel.isClosed = false)
    (unsupported : channel.kind? = none) :
    judge policy request channel =
      .rejected ⟨.channelUnsupported channel.typeName, initialContext request⟩ := by
  rw [judge, course_of_unsupported isOpen unsupported]

/-- What is dispatched came from the node itself, from a node or from a caller. -/
theorem sender_of_dispatched {context : SecurityContext}
    (dispatched : judge policy request channel = .dispatched context) :
    FromItself channel ∨ (∃ principal, FromNode policy request channel principal) ∨
      ∃ principal, FromCaller policy request channel principal := by
  cases sender policy request channel with
  | closed closed => simp [judge_of_closed closed] at dispatched
  | unsupported isOpen unsupported =>
      simp [judge_of_unsupported isOpen unsupported] at dispatched
  | itself sender => exact .inl sender
  | node sender => exact .inr (.inl ⟨_, sender⟩)
  | caller sender => exact .inr (.inr ⟨_, sender⟩)
  | nobody sender => exact absurd dispatched (sender.judge_ne_dispatched context)

end NodeGate.Admission
