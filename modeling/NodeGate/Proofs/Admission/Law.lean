import NodeGate.Node
import NodeGate.Proofs.Admission.Cases
import NodeGate.Proofs.Admission.Forwarded
import NodeGate.Proofs.Headers

/-!
# The law of admission on a network channel

`Admitted` says outright, without the stages, when a request on an open network channel is
admitted and which context it is given: a node as its headers say, a caller that the backend
knows at its socket address, and a caller that it does not know for the few actions that anyone
may run. `receive_dispatched_iff` shows that a guard dispatches exactly these.
-/

namespace NodeGate.Admission

/-- Any peer may ask for the action: it is the handshake, or neither internal nor routed to a
shard. -/
def OpenToAll (action : String) : Prop :=
  action = "internal:transport/handshake" ∨
    ¬ "internal:".toList <+: action.toList ∧ '[' ∉ action.toList

/-- No stored header has a private name, whatever its value. -/
def Unforged (headers : Headers) : Prop :=
  ∀ name value, headers.fields.get? name = some value → ¬ "_sg_".toList <+: name.toList

/-- How far a recognised node is trusted that says it is of this cluster, or of none. -/
def nodeTrust (policy : Policy) (cluster : Option String) : Trust :=
  if cluster = some policy.clusterName then .interCluster else .remoteCluster

/-- The context of a request that a network channel delivered. -/
def deliveredContext (request : Request) (principal : String) (trust : Trust) (origin : Origin)
    (identity : Option Identity) (address : Option Address) (initialClass : String) :
    SecurityContext where
  channelKind := some .network
  origin := some origin
  identity := identity
  remoteAddress := address
  trust := some trust
  principal := some principal
  action := request.action
  actionClass := request.payload.logicalClass
  initialActionClass := some initialClass
  isSuggest := request.payload.isSuggest

/-- The requests of a network channel that are admitted, with their contexts. -/
inductive Admitted (policy : Policy) (request : Request) (channel : Channel) :
    SecurityContext → Prop where
  /-- A recognised node, where each header that it forwards decodes. -/
  | node {principal : String} {identity : Option Identity} {address : Option Address}
      {origin : Option Origin} {cluster initialClass : Option String}
      (verified : channel.principal = some principal)
      (recognised : policy.recognises request channel.localCertificates channel.peerCertificates
        principal = true)
      (identitySaid : request.headers.Conveys "_sg_user_header" MeansIdentity identity)
      (addressSaid : request.headers.Conveys "_sg_remote_address_header" MeansAddress address)
      (originSaid : request.headers.Conveys "_sg_origin_header" MeansOrigin origin)
      (clusterSaid : request.headers.Conveys "_sg_remotecn"
        (fun value content => content = value) cluster)
      (classSaid : request.headers.Conveys "_sg_initial_action_class_header"
        (fun value content => content = value) initialClass) :
      Admitted policy request channel
        (deliveredContext request principal (nodeTrust policy cluster) (origin.getD .transport)
          identity (address <|> request.remoteAddress)
          (initialClass.getD request.payload.logicalClass))
  /-- A caller that the backend knows, at its socket address. -/
  | known {principal : String} {identity : Identity} {address : Address}
      (verified : channel.principal = some principal)
      (unrecognised : policy.recognises request channel.localCertificates
        channel.peerCertificates principal = false)
      (openToAll : OpenToAll request.action) (unforged : Unforged request.headers)
      (answered : policy.authenticate request principal request.action = .known identity)
      (reachable : request.remoteAddress = some address) :
      Admitted policy request channel
        (deliveredContext request principal .untrusted .transport (some identity) (some address)
          request.payload.logicalClass)
  /-- A caller that the backend does not know, for an action that needs no identity. -/
  | unknown {principal : String}
      (verified : channel.principal = some principal)
      (unrecognised : policy.recognises request channel.localCertificates
        channel.peerCertificates principal = false)
      (openToAll : OpenToAll request.action) (unforged : Unforged request.headers)
      (answered : policy.authenticate request principal request.action = .unknown)
      (listed : request.action ∈ ["cluster:monitor/nodes/liveness",
        "internal:transport/handshake", "cluster:admin/searchguard/whoami"]) :
      Admitted policy request channel
        (deliveredContext request principal .untrusted .transport none request.remoteAddress
          request.payload.logicalClass)

variable {policy : Policy} {request : Request} {channel : Channel} {principal : String}

/-- An action is reserved to nodes exactly when it is not open to all. -/
theorem isReserved_eq_false_iff : isReserved request = false ↔ OpenToAll request.action := by
  by_cases handshake : request.action = "internal:transport/handshake"
  · simp [isReserved, Request.isHandshake, Request.handshakeAction, OpenToAll, handshake]
  · simp [isReserved, Request.isHandshake, Request.handshakeAction, Request.isInternal,
      Request.isShardLevel, OpenToAll, handshake, ← List.isPrefixOf_iff_prefix]

/-- What is reserved to nodes is not open to all. -/
theorem isReserved_eq_true_iff : isReserved request = true ↔ ¬ OpenToAll request.action := by
  rw [← isReserved_eq_false_iff, Bool.not_eq_false]

/-- No private name is found exactly when none is stored. -/
theorem firstPrivate?_eq_none_iff {headers : Headers} :
    headers.firstPrivate? = none ↔ Unforged headers := by
  rw [Headers.firstPrivate?_eq_none_iff_forall]
  constructor
  · intro clean name value stored mark
    exact clean name ⟨mark, value, stored⟩
  · rintro unforged name ⟨mark, value, stored⟩
    exact unforged name value stored mark

/-- Where no private name is stored, a private header has no value. -/
theorem Unforged.get?_eq_none {headers : Headers} (unforged : Unforged headers) {name : String}
    (isPrivate : "_sg_".toList <+: name.toList) : headers.get? name = none := by
  cases stored : headers.fields.get? name with
  | none => simp [Headers.get?, stored]
  | some value => exact absurd isPrivate (unforged name value stored)

/-- An action needs no identity exactly when it is listed. -/
theorem isUnauthenticatedAction_iff {action : String} :
    isUnauthenticatedAction action = true ↔
      action ∈ ["cluster:monitor/nodes/liveness", "internal:transport/handshake",
        "cluster:admin/searchguard/whoami"] := by
  simp [isUnauthenticatedAction, unauthenticatedActions]

/-- A node is admitted exactly with what its headers say. -/
theorem FromNode.judge_dispatched_iff (sender : FromNode policy request channel principal)
    {context : SecurityContext} :
    judge policy request channel = .dispatched context ↔
      ∃ identity address origin, ForwardedBy request.headers identity address origin ∧
        deliveredContext request principal
          (nodeTrust policy (request.headers.get? Headers.clusterName))
          (origin.getD .transport) identity (address <|> request.remoteAddress)
          ((request.headers.get? Headers.initialClassName).getD request.payload.logicalClass) =
            context := by
  rw [sender.judge_eq]
  constructor
  · intro dispatched
    cases taken : takeForwarded policy.complaints request request.remoteAddress
        (peerContext request (policy.classify request channel) principal) with
    | error refusal => simp [taken] at dispatched
    | ok taken' =>
        obtain ⟨identity, address, origin, forwarded⟩ := exists_forwardedBy_of_takeForwarded taken
        rw [takeForwarded_of_forwardedBy forwarded] at dispatched
        refine ⟨identity, address, origin, forwarded, ?_⟩
        cases dispatched
        rw [sender.classify_eq]
        cases identity <;> cases address <;> cases request.remoteAddress <;> cases origin <;> rfl
  · rintro ⟨identity, address, origin, forwarded, rfl⟩
    rw [takeForwarded_of_forwardedBy forwarded, sender.classify_eq]
    cases identity <;> cases address <;> cases request.remoteAddress <;> cases origin <;> rfl

/-- A caller is admitted exactly when nothing forbids it and the backend's answer will do. -/
theorem FromCaller.judge_dispatched_iff (sender : FromCaller policy request channel principal)
    {context : SecurityContext} :
    judge policy request channel = .dispatched context ↔
      OpenToAll request.action ∧ Unforged request.headers ∧
        ((∃ identity address,
            policy.authenticate request principal request.action = .known identity ∧
            request.remoteAddress = some address ∧
            deliveredContext request principal .untrusted .transport (some identity)
              (some address) request.payload.logicalClass = context) ∨
          policy.authenticate request principal request.action = .unknown ∧
            isUnauthenticatedAction request.action = true ∧
            deliveredContext request principal .untrusted .transport none request.remoteAddress
              request.payload.logicalClass = context) := by
  rw [sender.judge_eq]
  cases reserved : isReserved request with
  | true =>
      have notOpen : ¬ OpenToAll request.action := by
        rw [← isReserved_eq_false_iff, reserved]
        decide
      simp [notOpen]
  | false =>
      have openToAll := isReserved_eq_false_iff.1 reserved
      cases found : request.headers.firstPrivate? with
      | some header =>
          have forged : ¬ Unforged request.headers := by
            rw [← firstPrivate?_eq_none_iff, found]
            simp
          simp [forged]
      | none =>
          have unforged := firstPrivate?_eq_none_iff.1 found
          have noClass : request.headers.get? Headers.initialClassName = none :=
            unforged.get?_eq_none (by decide)
          simp only [openToAll, unforged, true_and, Bool.false_eq_true, if_false]
          cases answer : policy.authenticate request principal request.action with
          | known identity =>
              cases placed : request.remoteAddress with
              | none => simp [settle, placed]
              | some address =>
                  simp [settle, placed, complete, stamp, noClass, deliveredContext, peerContext,
                    initialContext]
          | unknown =>
              cases listed : isUnauthenticatedAction request.action with
              | false => simp [settle, listed]
              | true =>
                  cases placed : request.remoteAddress <;>
                    simp [settle, placed, listed, complete, stamp, noClass, deliveredContext,
                      peerContext, initialContext, SecurityContext.withAddress?]
          | failed failure => simp [settle]
          | pending => simp [settle]

/-- A guard dispatches a request of an open network channel exactly when it is admitted, and with
the context that it is admitted with. -/
theorem receive_dispatched_iff (guard : Guard) (request : Request) (channel : Channel)
    (context : SecurityContext) (network : channel.type = some "netty")
    (isOpen : channel.isClosed = false) :
    (guard.receive request channel).2 = .dispatched context ↔
      Admitted guard.policy request channel context := by
  have kind : channel.kind? = some .network := by
    rw [Channel.kind?, network]
    rfl
  change judge guard.policy request channel = .dispatched context ↔ _
  rcases sender_of_network guard.policy request isOpen kind with
    ⟨principal, sender⟩ | ⟨principal, sender⟩ | sender
  · rw [sender.judge_dispatched_iff]
    constructor
    · rintro ⟨identity, address, origin, forwarded, rfl⟩
      exact .node sender.verified sender.recognised forwarded.identity forwarded.address
        forwarded.origin (Headers.conveys_itself_iff.2 rfl) (Headers.conveys_itself_iff.2 rfl)
    · intro admitted
      cases admitted with
      | node verified recognised identitySaid addressSaid originSaid clusterSaid classSaid =>
          cases sender.verified.symm.trans verified
          cases Headers.conveys_itself_iff.1 clusterSaid
          cases Headers.conveys_itself_iff.1 classSaid
          exact ⟨_, _, _, ⟨identitySaid, addressSaid, originSaid⟩, rfl⟩
      | known verified unrecognised =>
          cases sender.verified.symm.trans verified
          simp [sender.recognised] at unrecognised
      | unknown verified unrecognised =>
          cases sender.verified.symm.trans verified
          simp [sender.recognised] at unrecognised
  · rw [sender.judge_dispatched_iff]
    constructor
    · rintro ⟨openToAll, unforged,
        ⟨identity, address, answered, reachable, rfl⟩ | ⟨answered, listed, rfl⟩⟩
      · exact .known sender.verified sender.unrecognised openToAll unforged answered reachable
      · exact .unknown sender.verified sender.unrecognised openToAll unforged answered
          (isUnauthenticatedAction_iff.1 listed)
    · intro admitted
      cases admitted with
      | node verified recognised =>
          cases sender.verified.symm.trans verified
          simp [sender.unrecognised] at recognised
      | known verified unrecognised openToAll unforged answered reachable =>
          cases sender.verified.symm.trans verified
          exact ⟨openToAll, unforged, .inl ⟨_, _, answered, reachable, rfl⟩⟩
      | unknown verified unrecognised openToAll unforged answered listed =>
          cases sender.verified.symm.trans verified
          exact ⟨openToAll, unforged,
            .inr ⟨answered, isUnauthenticatedAction_iff.2 listed, rfl⟩⟩
  · constructor
    · intro dispatched
      exact absurd dispatched (sender.judge_ne_dispatched context)
    · intro admitted
      cases admitted with
      | node verified | known verified | unknown verified =>
          simp [sender.unverified] at verified

/-- A caller with a mapped principal is dispatched at its own address. -/
theorem receive_dispatched_mapped_caller :
    let settings : Settings :=
      { authentication := ⟨[{ dn := "CN=kirk, O=Example", user := "kirk" }]⟩ }
    let channel : Channel := { type := some "netty", principal := some "CN=kirk,O=Example" }
    let address := Address.v4 ⟨10, 0, 0, 7⟩ 9300
    let request : Request := { action := "indices:data/read/search", remoteAddress := some address }
    channel.type = some "netty" ∧ channel.isClosed = false ∧
      ((Node.start {} settings).guard.receive request channel).2 =
        .dispatched (deliveredContext request "CN=kirk,O=Example" .untrusted .transport
          (some { name := "kirk" }) (some address) "TransportRequest") := by
  intro settings channel address request
  refine ⟨rfl, rfl, (receive_dispatched_iff _ request channel _ rfl rfl).2 ?_⟩
  exact .known rfl rfl (.inr (by decide)) (fun name value stored => nomatch stored) (by decide) rfl

end NodeGate.Admission
