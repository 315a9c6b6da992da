import NodeGate.Proofs.Admission.Forwarded
import NodeGate.Proofs.Pattern.Language
import NodeGate.Proofs.Reload.InForce

/-!
# How far peers are trusted

`TransportSettings.Describes` says outright, without the order in which it is tested, which peers
settings take for nodes, and `Request.NamesCluster` which cluster a request says it is from. A node
classifies by these two alone, under the settings in force (`run_trustsByRule`). What is described
only grows with the listed patterns and with the markers of the peer's own certificate
(`TransportSettings.Describes.mono`), so that neither the order of the patterns nor anything else
of the channel matters.
-/

namespace NodeGate

open Admission

/-- The verified peer of a channel is one of the nodes that settings describe. -/
inductive TransportSettings.Describes (settings : TransportSettings) (channel : Channel) :
    Prop where
  /-- The principal fits a listed pattern, both in normalised spelling. -/
  | named {dn principal : String} (verified : channel.principal = some principal)
      (listed : dn ∈ settings.nodesDn)
      (fits : Pattern.Fits ⟨DistinguishedName.normalize dn⟩
        (DistinguishedName.normalize principal)) :
      Describes settings channel
  /-- The peer's own certificate, the first of its chain, carries the marker. -/
  | marked {oid principal : String} {leaf : Certificate} {issuers : List Certificate}
      (verified : channel.principal = some principal)
      (demanded : settings.certificateOid = some oid)
      (presented : channel.peerCertificates = leaf :: issuers) (carried : oid ∈ leaf.oids) :
      Describes settings channel

/-- Settings list at least the patterns of others, and keep their marker where they have one. -/
structure TransportSettings.Widens (wider narrower : TransportSettings) : Prop where
  patterns : ∀ dn ∈ narrower.nodesDn, dn ∈ wider.nodesDn
  marker : ∀ oid, narrower.certificateOid = some oid → wider.certificateOid = some oid

/-- A channel reports the principal of another, and a first peer certificate with at least its
markers. -/
structure Channel.Outmarks (more fewer : Channel) : Prop where
  principal : more.principal = fewer.principal
  markers : ∀ leaf, fewer.peerCertificates.head? = some leaf →
    ∃ other, more.peerCertificates.head? = some other ∧ ∀ oid ∈ leaf.oids, oid ∈ other.oids

/-- Two channels report the same principal, and first peer certificates with the same markers or
none. Their own certificates, the later ones of the peer, all subjects and the state of the
channel may differ. -/
structure Channel.SamePeer (left right : Channel) : Prop where
  principal : left.principal = right.principal
  markers : left.peerCertificates.head?.map (·.oids) = right.peerCertificates.head?.map (·.oids)

/-- The same peer has no fewer markers. -/
theorem Channel.SamePeer.outmarks {left right : Channel} (same : left.SamePeer right) :
    left.Outmarks right where
  principal := same.principal
  markers leaf first := by
    have markers := same.markers
    rw [first, Option.map_some, Option.map_eq_some_iff] at markers
    obtain ⟨other, otherFirst, oids⟩ := markers
    exact ⟨other, otherFirst, fun oid carried => oids ▸ carried⟩

/-- The same peer is the same seen from either channel. -/
theorem Channel.SamePeer.symm {left right : Channel} (same : left.SamePeer right) :
    right.SamePeer left :=
  ⟨same.principal.symm, same.markers.symm⟩

/-- A channel reports its own peer. -/
theorem Channel.SamePeer.refl (channel : Channel) : channel.SamePeer channel :=
  ⟨rfl, rfl⟩

namespace TransportSettings

variable {wider narrower : TransportSettings} {more fewer : Channel}

/-- A peer stays described when patterns are added to the settings or markers to its
certificate. -/
theorem Describes.mono (described : narrower.Describes fewer) (widens : wider.Widens narrower)
    (outmarks : more.Outmarks fewer) : wider.Describes more := by
  cases described with
  | named verified listed fits =>
      exact .named (outmarks.principal.trans verified) (widens.patterns _ listed) fits
  | marked verified demanded presented carried =>
      obtain ⟨other, first, kept⟩ := outmarks.markers _ (by rw [presented]; rfl)
      obtain ⟨issuers, presented'⟩ := List.head?_eq_some_iff.1 first
      exact .marked (outmarks.principal.trans verified) (widens.marker _ demanded) presented'
        (kept _ carried)

/-- Settings that list the same patterns, in any order and any number of times, and have the same
marker describe the same nodes. -/
theorem describes_congr {left right : TransportSettings} {channel peer : Channel}
    (patterns : ∀ dn, dn ∈ left.nodesDn ↔ dn ∈ right.nodesDn)
    (marker : left.certificateOid = right.certificateOid) (same : channel.SamePeer peer) :
    left.Describes channel ↔ right.Describes peer := by
  constructor
  · intro described
    exact described.mono
      ⟨fun dn => (patterns dn).1, fun oid demanded => marker.symm.trans demanded⟩
      same.symm.outmarks
  · intro described
    exact described.mono ⟨fun dn => (patterns dn).2, fun oid demanded => marker.trans demanded⟩
      same.outmarks

end TransportSettings

/-- The marker is found exactly on a first certificate that carries it. -/
theorem NodeRecognition.hasMarker_iff {recognition : NodeRecognition}
    {certificates : List Certificate} :
    recognition.hasMarker certificates = true ↔
      ∃ oid leaf issuers, recognition.oid = some oid ∧ certificates = leaf :: issuers ∧
        oid ∈ leaf.oids := by
  cases demanded : recognition.oid with
  | none => simp [hasMarker, demanded]
  | some oid =>
      cases certificates with
      | nil => simp [hasMarker]
      | cons leaf issuers => simp [hasMarker, demanded]

/-- A request says that it comes from a cluster; the empty name names none. -/
def Request.NamesCluster (request : Request) (cluster : String) : Prop :=
  request.headers.fields.get? "_sg_remotecn" = some cluster ∧ cluster ≠ ""

namespace Node

variable {complaints : HeaderValue.Complaints} {cluster : String} {transport : TransportSettings}
  {authentication : AuthenticationSettings} {request : Request} {channel : Channel}

/-- The peers that a node recognises are those that its settings describe. -/
theorem recognisesPeer_iff :
    (policy complaints cluster transport authentication).recognisesPeer request channel = true ↔
      transport.Describes channel := by
  cases verified : channel.principal with
  | none =>
      simp only [Policy.recognisesPeer, verified, Bool.false_eq_true, false_iff]
      rintro (⟨other, _, _⟩ | ⟨other, _, _, _⟩) <;> simp [verified] at other
  | some principal =>
      simp only [Policy.recognisesPeer, verified, policy, NodeRecognition.recognises,
        Bool.or_eq_true, Pattern.anyMatch, List.any_eq_true, NodeRecognition.ofSettings,
        List.mem_map, exists_exists_and_eq_and, NodeRecognition.hasMarker_iff, ← Pattern.fits_iff]
      constructor
      · rintro (⟨dn, listed, fits⟩ | ⟨oid, leaf, issuers, demanded, presented, carried⟩)
        · exact .named verified listed fits
        · exact .marked verified demanded presented carried
      · rintro (⟨other, listed, fits⟩ | ⟨other, demanded, presented, carried⟩)
        · cases verified.symm.trans other
          exact .inl ⟨_, listed, fits⟩
        · exact .inr ⟨_, _, _, demanded, presented, carried⟩

/-- What is read of the cluster header is that it names the cluster. -/
theorem get?_clusterName_iff :
    request.headers.get? Headers.clusterName = some cluster ↔ request.NamesCluster cluster :=
  Headers.get?_eq_some_iff

/-- A peer is untrusted exactly when it is none of the nodes. -/
theorem classify_untrusted_iff :
    (policy complaints cluster transport authentication).classify request channel = .untrusted ↔
      ¬ transport.Describes channel := by
  rw [← @recognisesPeer_iff complaints cluster transport authentication request, Policy.classify]
  split
  · rename_i recognised
    split <;> simp [recognised]
  · rename_i unrecognised
    simp [unrecognised]

/-- A peer is of the same cluster exactly when it is a node and names that cluster. -/
theorem classify_interCluster_iff :
    (policy complaints cluster transport authentication).classify request channel = .interCluster ↔
      transport.Describes channel ∧ request.NamesCluster cluster := by
  rw [← @recognisesPeer_iff complaints cluster transport authentication request,
    ← get?_clusterName_iff, Policy.classify]
  split
  · rename_i recognised
    split
    · rename_i named
      exact ⟨fun _ => ⟨recognised, named⟩, fun _ => rfl⟩
    · rename_i unnamed
      exact ⟨nofun, fun both => absurd both.2 unnamed⟩
  · rename_i unrecognised
    exact ⟨nofun, fun both => absurd both.1 unrecognised⟩

/-- A peer is of another cluster exactly when it is a node and does not name this one. -/
theorem classify_remoteCluster_iff :
    (policy complaints cluster transport authentication).classify request channel = .remoteCluster ↔
      transport.Describes channel ∧ ¬ request.NamesCluster cluster := by
  rw [← @recognisesPeer_iff complaints cluster transport authentication request,
    ← get?_clusterName_iff, Policy.classify]
  split
  · rename_i recognised
    split
    · rename_i named
      exact ⟨nofun, fun both => absurd named both.2⟩
    · rename_i unnamed
      exact ⟨fun _ => ⟨recognised, unnamed⟩, fun _ => rfl⟩
  · rename_i unrecognised
    exact ⟨nofun, fun both => absurd both.1 unrecognised⟩

/-- Peers that are both described, or both not, by whatever settings, are classified alike when
their requests name the cluster alike. -/
theorem classify_congr {left right : TransportSettings}
    {leftAuthentication rightAuthentication : AuthenticationSettings} {other : Request}
    {peer : Channel} (described : left.Describes channel ↔ right.Describes peer)
    (named : request.NamesCluster cluster ↔ other.NamesCluster cluster) :
    (policy complaints cluster left leftAuthentication).classify request channel =
      (policy complaints cluster right rightAuthentication).classify other peer := by
  cases trust : (policy complaints cluster right rightAuthentication).classify other peer with
  | interCluster =>
      rw [classify_interCluster_iff, described, named]
      exact classify_interCluster_iff.1 trust
  | remoteCluster =>
      rw [classify_remoteCluster_iff, described, named]
      exact classify_remoteCluster_iff.1 trust
  | untrusted =>
      rw [classify_untrusted_iff, described]
      exact classify_untrusted_iff.1 trust

/-- How a node trusts the peers of network channels: by whether the transport settings in force
describe them, by whether their requests name its cluster, and by nothing else. -/
structure TrustsByRule (node : Node) (cluster : String) (transport : TransportSettings) :
    Prop where
  untrusted_iff : ∀ request channel,
    node.guard.policy.classify request channel = .untrusted ↔ ¬ transport.Describes channel
  interCluster_iff : ∀ request channel,
    node.guard.policy.classify request channel = .interCluster ↔
      transport.Describes channel ∧ request.NamesCluster cluster
  remoteCluster_iff : ∀ request channel,
    node.guard.policy.classify request channel = .remoteCluster ↔
      transport.Describes channel ∧ ¬ request.NamesCluster cluster
  /-- In a cluster without a name every node counts as one of another cluster. -/
  nameless : cluster = "" → ∀ request channel, transport.Describes channel →
    node.guard.policy.classify request channel = .remoteCluster
  /-- Of the request only the cluster that it names is read, and of the channel only the principal
  and the markers of the first peer certificate. -/
  readsNothingElse : ∀ request other channel peer,
    (request.NamesCluster cluster ↔ other.NamesCluster cluster) → channel.SamePeer peer →
      node.guard.policy.classify request channel = node.guard.policy.classify other peer
  /-- A reload that only lists the same patterns in another order or number changes nothing. -/
  reordered : ∀ settings,
    (∀ dn, dn ∈ settings.transport.nodesDn ↔ dn ∈ transport.nodesDn) →
      settings.transport.certificateOid = transport.certificateOid → ∀ request channel,
        (node.reload settings).1.guard.policy.classify request channel =
          node.guard.policy.classify request channel
  /-- A peer that is trusted stays trusted as it was when patterns are added by a reload and markers
  on its certificate. -/
  grown : ∀ settings request channel more,
    settings.transport.Widens transport → more.Outmarks channel →
      node.guard.policy.classify request channel ≠ .untrusted →
        (node.reload settings).1.guard.policy.classify request more =
          node.guard.policy.classify request channel

/-- The rules that a node has after events are made from the settings in force. -/
theorem policy_run (complaints : HeaderValue.Complaints) (started : Settings)
    (events : List Event) :
    ((start complaints started).run events).guard.policy =
      policy complaints started.cluster.name (inForce started events).transport
        (inForce started events).authentication := by
  rw [(run_sameRules complaints started events).policy]
  exact congrArg (fun settings : ClusterSettings => policy complaints settings.name _ _)
    (inForce_cluster started events)

/-- After any events, reloads among them, a node trusts by the rule under the settings in force. -/
theorem run_trustsByRule (complaints : HeaderValue.Complaints) (started : Settings)
    (events : List Event) :
    TrustsByRule ((start complaints started).run events) started.cluster.name
      (inForce started events).transport := by
  have now := policy_run complaints started events
  have reloaded (settings : Settings) :
      (((start complaints started).run events).reload settings).1.guard.policy =
        policy complaints started.cluster.name settings.transport settings.authentication := by
    let node := (start complaints started).run events
    change policy node.guard.policy.complaints node.guard.policy.clusterName _ _ = _
    rw [now]
    rfl
  refine
    { untrusted_iff := ?_, interCluster_iff := ?_, remoteCluster_iff := ?_, nameless := ?_,
      readsNothingElse := ?_, reordered := ?_, grown := ?_ }
  · intro request channel
    rw [now]
    exact classify_untrusted_iff
  · intro request channel
    rw [now]
    exact classify_interCluster_iff
  · intro request channel
    rw [now]
    exact classify_remoteCluster_iff
  · intro empty request channel described
    rw [now, classify_remoteCluster_iff]
    exact ⟨described, fun named => named.2 empty⟩
  · intro request other channel peer named same
    rw [now]
    exact classify_congr (TransportSettings.describes_congr (fun _ => Iff.rfl) rfl same) named
  · intro settings patterns marker request channel
    rw [now, reloaded]
    exact classify_congr (TransportSettings.describes_congr patterns marker (.refl channel)) Iff.rfl
  · intro settings request channel more widens outmarks trusted
    rw [now] at trusted ⊢
    rw [reloaded]
    have described : (inForce started events).transport.Describes channel :=
      not_not.1 (mt classify_untrusted_iff.2 trusted)
    have still := described.mono widens outmarks
    exact classify_congr (iff_of_true still described) Iff.rfl

end Node

end NodeGate
