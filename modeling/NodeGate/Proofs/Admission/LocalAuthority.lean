import NodeGate.Proofs.Admission.Law
import NodeGate.Proofs.CursorHistory

/-!
# Who is locally authorized

Whether a dispatched context is locally authorized is settled by its request and its channel: the
origin header says that the request is local, and the request was delivered within the node or
sent by a recognised node that names the receiver's own cluster. So nobody outside the cluster
can create a cursor that belongs to the cluster, or go on with one
(`receive_localAuthority`).
-/

namespace NodeGate.Admission

/-- The request was sent by the cluster itself: within the node, or by a recognised node that names
the cluster of the receiver. -/
inductive SentByCluster (policy : Policy) (request : Request) (channel : Channel) : Prop where
  | within (direct : channel.type = some "direct")
  | node {principal cluster : String} (network : channel.type = some "netty")
      (verified : channel.principal = some principal)
      (recognised : policy.recognises request channel.localCertificates channel.peerCertificates
        principal = true)
      (named : request.headers.fields.get? "_sg_remotecn" = some cluster)
      (nonempty : cluster ≠ "") (own : cluster = policy.clusterName)

/-- The sender is outside the cluster. -/
inductive Outsider (policy : Policy) (request : Request) (channel : Channel) : Prop where
  /-- A peer that is not recognised as a node, verified or not. -/
  | untrusted (network : channel.type = some "netty")
      (unrecognised : policy.recognisesPeer request channel = false)
  /-- A peer that names another cluster than the receiver's, or none. -/
  | foreign (network : channel.type = some "netty")
      (elsewhere : ∀ cluster, request.headers.fields.get? "_sg_remotecn" = some cluster →
        cluster ≠ "" → cluster ≠ policy.clusterName)
  /-- A caller that the backend does not know, with an action that needs no identity. -/
  | unauthenticated {principal : String} (network : channel.type = some "netty")
      (verified : channel.principal = some principal)
      (unrecognised : policy.recognises request channel.localCertificates
        channel.peerCertificates principal = false)
      (answered : policy.authenticate request principal request.action = .unknown)
      (listed : request.action ∈ ["cluster:monitor/nodes/liveness",
        "internal:transport/handshake", "cluster:admin/searchguard/whoami"])

variable {policy : Policy} {request : Request} {channel : Channel} {principal : String}
  {context : SecurityContext}

/-- Nobody outside the cluster is the cluster. -/
theorem Outsider.not_sentByCluster (outsider : Outsider policy request channel) :
    ¬ SentByCluster policy request channel := by
  intro sent
  cases outsider with
  | untrusted network unrecognised =>
      cases sent with
      | within direct => simp [direct] at network
      | node network' verified recognised =>
          simp [Policy.recognisesPeer, verified, recognised] at unrecognised
  | foreign network elsewhere =>
      cases sent with
      | within direct => simp [direct] at network
      | node network' verified recognised named nonempty own =>
          exact elsewhere _ named nonempty own
  | unauthenticated network verified unrecognised =>
      cases sent with
      | within direct => simp [direct] at network
      | node network' verified' recognised =>
          cases verified.symm.trans verified'
          simp [unrecognised] at recognised

/-- The origin that a header says is local exactly when its value is that name. -/
theorem eq_local_iff_of_conveys {headers : Headers} {origin : Option Origin}
    (said : headers.Conveys Headers.originName MeansOrigin origin) :
    origin = some .local ↔ headers.fields.get? "_sg_origin_header" = some "LOCAL" := by
  cases said with
  | nothing silent =>
      have notLocal : headers.fields.get? Headers.originName ≠ some "LOCAL" := by
        rcases silent with absent | empty
        · simp [absent]
        · simp [empty]
      exact iff_of_false (by simp) notLocal
  | content stored nonempty meaning =>
      rename_i value origin
      change headers.fields.get? "_sg_origin_header" = _ at stored
      rw [stored, meaning]
      cases origin <;> decide

/-- The node itself is admitted exactly with what the headers say. -/
theorem FromItself.judge_dispatched_iff (sender : FromItself channel) :
    judge policy request channel = .dispatched context ↔
      ∃ identity address origin, ForwardedBy request.headers identity address origin ∧
        stamp request { directContext request with
          identity := identity, remoteAddress := address, origin := origin } = context := by
  rw [sender.judge_eq]
  constructor
  · intro dispatched
    cases taken : takeForwarded policy.complaints request none (directContext request) with
    | error refusal => simp [taken] at dispatched
    | ok taken' =>
        obtain ⟨identity, address, origin, forwarded⟩ := exists_forwardedBy_of_takeForwarded taken
        rw [takeForwarded_of_forwardedBy forwarded] at dispatched
        refine ⟨identity, address, origin, forwarded, ?_⟩
        cases dispatched
        cases identity <;> cases address <;> cases origin <;> rfl
  · rintro ⟨identity, address, origin, forwarded, rfl⟩
    rw [takeForwarded_of_forwardedBy forwarded]
    cases identity <;> cases address <;> cases origin <;> rfl

/-- A request of the node itself is locally authorized when it says that it is local. -/
theorem FromItself.isLocallyAuthorized_iff (sender : FromItself channel)
    (dispatched : judge policy request channel = .dispatched context) :
    context.isLocallyAuthorized = true ↔
      request.headers.fields.get? "_sg_origin_header" = some "LOCAL" := by
  obtain ⟨identity, address, origin, forwarded, rfl⟩ := sender.judge_dispatched_iff.1 dispatched
  rw [← eq_local_iff_of_conveys forwarded.origin]
  simp only [SecurityContext.isLocallyAuthorized, stamp, directContext, decide_true,
    Bool.true_or, Bool.and_true]
  exact decide_eq_true_iff

/-- A request of a node is locally authorized when it says that it is local and names the cluster
of the receiver. -/
theorem FromNode.isLocallyAuthorized_iff (sender : FromNode policy request channel principal)
    (dispatched : judge policy request channel = .dispatched context) :
    context.isLocallyAuthorized = true ↔
      request.headers.fields.get? "_sg_origin_header" = some "LOCAL" ∧
        request.headers.get? Headers.clusterName = some policy.clusterName := by
  obtain ⟨identity, address, origin, forwarded, rfl⟩ := sender.judge_dispatched_iff.1 dispatched
  rw [← eq_local_iff_of_conveys forwarded.origin]
  have asLocal : origin.getD .transport = .local ↔ origin = some .local := by
    cases origin with
    | none => simp
    | some origin => simp
  have trusted : nodeTrust policy (request.headers.get? Headers.clusterName) = .interCluster ↔
      request.headers.get? Headers.clusterName = some policy.clusterName := by
    simp [nodeTrust]
  simp [SecurityContext.isLocallyAuthorized, deliveredContext, asLocal, trusted]

/-- A caller is never locally authorized. -/
theorem FromCaller.not_isLocallyAuthorized (sender : FromCaller policy request channel principal)
    (dispatched : judge policy request channel = .dispatched context) :
    context.isLocallyAuthorized = false := by
  obtain ⟨_, _, ⟨_, _, _, _, rfl⟩ | ⟨_, _, rfl⟩⟩ := sender.judge_dispatched_iff.1 dispatched
  · rfl
  · rfl

/-- A dispatched context is locally authorized exactly when its request says that it is local and
the cluster itself sent it. -/
theorem isLocallyAuthorized_iff (dispatched : judge policy request channel = .dispatched context) :
    context.isLocallyAuthorized = true ↔
      request.headers.fields.get? "_sg_origin_header" = some "LOCAL" ∧
        SentByCluster policy request channel := by
  rcases sender_of_dispatched dispatched with sender | ⟨principal, sender⟩ | ⟨principal, sender⟩
  · rw [sender.isLocallyAuthorized_iff dispatched]
    have within : SentByCluster policy request channel :=
      .within (kind?_eq_some_iff.1 sender.direct)
    exact (and_iff_left within).symm
  · rw [sender.isLocallyAuthorized_iff dispatched, Headers.get?_eq_some_iff]
    refine and_congr_right' ⟨?_, ?_⟩
    · rintro ⟨named, nonempty⟩
      exact .node (kind?_eq_some_iff.1 sender.network) sender.verified sender.recognised named
        nonempty rfl
    · intro sent
      cases sent with
      | within direct =>
          have inside : channel.kind? = some .direct := kind?_eq_some_iff.2 direct
          simp [sender.network] at inside
      | node network verified recognised named nonempty own =>
          subst own
          exact ⟨named, nonempty⟩
  · rw [sender.not_isLocallyAuthorized dispatched]
    have outsider : Outsider policy request channel :=
      .untrusted (kind?_eq_some_iff.1 sender.network) sender.recognisesPeer_eq
    simp [outsider.not_sentByCluster]

/-- Trust is set for network channels and for no others. -/
theorem isSome_trust_iff (dispatched : judge policy request channel = .dispatched context) :
    context.trust.isSome = true ↔ channel.type = some "netty" := by
  rcases sender_of_dispatched dispatched with sender | ⟨principal, sender⟩ | ⟨principal, sender⟩
  · obtain ⟨identity, address, origin, _, rfl⟩ := sender.judge_dispatched_iff.1 dispatched
    simp [stamp, directContext, initialContext, sender.type_ne_network]
  · obtain ⟨identity, address, origin, _, rfl⟩ := sender.judge_dispatched_iff.1 dispatched
    simp [deliveredContext, kind?_eq_some_iff.1 sender.network, ChannelKind.name]
  · have network := kind?_eq_some_iff.1 sender.network
    obtain ⟨_, _, ⟨_, _, _, _, rfl⟩ | ⟨_, _, rfl⟩⟩ := sender.judge_dispatched_iff.1 dispatched
    · simp [deliveredContext, network, ChannelKind.name]
    · simp [deliveredContext, network, ChannelKind.name]

/-- A context has no part in the cursors of the cluster: it is not locally authorized, a cursor
that it creates is bound to its own identity, and a cursor of the cluster is refused to it. -/
structure NoPartInClusterCursors (context : SecurityContext) : Prop where
  notAuthorized : context.isLocallyAuthorized = false
  creates : ∀ (guard : Guard) (cursor : String), guard.cursors.owner? cursor = none →
    (guard.createCursor cursor context).cursors.owner? cursor =
      some (.identity context.identity)
  /-- Creating a cursor that is open does not make it one of the cluster. -/
  keeps : ∀ (guard : Guard) (cursor : String), guard.cursors.owner? cursor ≠ none →
    (guard.createCursor cursor context).cursors.owner? cursor = guard.cursors.owner? cursor
  refused : ∀ (guard : Guard) (cursor : String) (summary : RequestSummary),
    guard.cursors.owner? cursor = some .locallyAuthorized →
      (guard.validateCursor cursor context summary).2 = .error .cursorOwnershipMismatch

/-- A context that is not locally authorized has no part in the cursors of the cluster. -/
theorem noPartInClusterCursors (notAuthorized : context.isLocallyAuthorized = false) :
    NoPartInClusterCursors context where
  notAuthorized := notAuthorized
  creates guard cursor unopened := by
    change (guard.cursors.create cursor context).owner? cursor = _
    rw [CursorLedger.owner?_create, if_pos rfl, unopened]
    simp [CursorOwner.ofContext, notAuthorized]
  keeps guard cursor opened := by
    obtain ⟨owner, owned⟩ := Option.ne_none_iff_exists'.1 opened
    change (guard.cursors.create cursor context).owner? cursor = _
    rw [CursorLedger.owner?_create, if_pos rfl, owned]
    rfl
  refused guard cursor summary owned := by
    rw [validateCursor_snd, owned]
    simp [CursorOwner.check, notAuthorized]

/-- What a request comes to as far as local authority goes. -/
structure LocalAuthority (policy : Policy) (request : Request) (channel : Channel)
    (context : SecurityContext) : Prop where
  /-- The request says that it is local, and the cluster itself sent it. -/
  authorized_iff : context.isLocallyAuthorized = true ↔
    request.headers.fields.get? "_sg_origin_header" = some "LOCAL" ∧
      SentByCluster policy request channel
  /-- Nobody outside the cluster has a part in its cursors. -/
  outsider : Outsider policy request channel → NoPartInClusterCursors context
  /-- Trust is set for network channels and for no others. -/
  trust_iff : context.trust.isSome = true ↔ channel.type = some "netty"

/-- Every dispatched context is locally authorized for the one reason there is. -/
theorem receive_localAuthority (guard : Guard) (request : Request) (channel : Channel)
    (context : SecurityContext)
    (dispatched : (guard.receive request channel).2 = .dispatched context) :
    LocalAuthority guard.policy request channel context where
  authorized_iff := isLocallyAuthorized_iff dispatched
  outsider := by
    intro outsider
    apply noPartInClusterCursors
    rw [Bool.eq_false_iff, ne_eq, isLocallyAuthorized_iff dispatched]
    exact fun authorized => outsider.not_sentByCluster authorized.2
  trust_iff := isSome_trust_iff dispatched

/-- A node that says its request is local is believed when it is of the receiver's cluster. From
another cluster it is dispatched just so, and has no part in the cursors of this one. -/
theorem receive_localAuthority_claimed_origin :
    let guard := (Node.start {} { transport := { nodesDn := ["CN=node"] } }).guard
    let channel : Channel := { type := some "netty", principal := some "CN=node" }
    let claiming (cluster : String) : Request :=
      { action := "internal:ping"
        headers := Headers.ofList [("_sg_origin_header", "LOCAL"), ("_sg_remotecn", cluster)] }
    (∃ context, (guard.receive (claiming "cluster") channel).2 = .dispatched context ∧
        context.isLocallyAuthorized = true) ∧
      ∃ context, (guard.receive (claiming "elsewhere") channel).2 = .dispatched context ∧
        NoPartInClusterCursors context := by
  intro guard channel claiming
  let context (cluster : String) (trust : Trust) : SecurityContext :=
    deliveredContext (claiming cluster) "CN=node" trust .local none none "TransportRequest"
  have own : (guard.receive (claiming "cluster") channel).2 =
      .dispatched (context "cluster" .interCluster) := by rfl
  have other : (guard.receive (claiming "elsewhere") channel).2 =
      .dispatched (context "elsewhere" .remoteCluster) := by rfl
  have ownAuthority := receive_localAuthority guard (claiming "cluster") channel _ own
  have otherAuthority := receive_localAuthority guard (claiming "elsewhere") channel _ other
  refine ⟨⟨_, own, ?_⟩, _, other, ?_⟩
  · apply ownAuthority.authorized_iff.2
    exact ⟨by decide, .node rfl rfl (by decide) (by decide) (by decide) rfl⟩
  · apply otherAuthority.outsider
    refine .foreign rfl fun cluster named _ own => ?_
    have stored : (claiming "elsewhere").headers.fields.get? "_sg_remotecn" =
        some "elsewhere" := by decide
    cases stored.symm.trans named
    exact absurd own (by decide)

end NodeGate.Admission
