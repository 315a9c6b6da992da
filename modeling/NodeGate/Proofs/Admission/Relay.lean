import Mathlib.Data.List.Forall2
import NodeGate.Proofs.Admission.HandedOn

/-!
# Chains of hops

A caller's request is handed on from node to node, each sending the headers of the context that it
dispatched, alone or set over those that it received. However long the chain is, every hop
dispatches, and every context is still on behalf of the caller who entered
(`through_keepsCaller`). The invariant is `OnBehalfOf`: a context in which nothing is missing that
headers carry is written in full, so it is read in full, whatever older headers are underneath.
-/

namespace NodeGate

namespace Headers

variable {headers written : Headers} {name : String}

/-- Every header of the second is in the first with its value, empty values included. -/
def Includes (headers written : Headers) : Prop :=
  ∀ name value, written.fields.get? name = some value → headers.fields.get? name = some value

/-- Headers that are set over others are all in the result. -/
theorem includes_insertAll (headers written : Headers) :
    (headers.insertAll written.toList).Includes written := by
  intro name value stored
  change (headers.fields.insertAll written.fields.entries).get? name = some value
  rw [NameMap.get?_insertAll_entries, stored]
  rfl

/-- What a header says is said by headers that include it. -/
theorem Conveys.of_includes {Content : Type} {Means : String → Content → Prop} {content : Content}
    (conveyed : written.Conveys name Means (some content)) (includes : headers.Includes written) :
    headers.Conveys name Means (some content) := by
  cases conveyed with
  | content stored nonempty meaning => exact .content (includes _ _ stored) nonempty meaning

end Headers

namespace Relay

open Admission

/-- A request with the context that it was dispatched with. -/
structure Delivery where
  request : Request
  context : SecurityContext

/-- One hop: the guard that receives, the cluster that the sender names, and what arrives apart
from headers. -/
structure Hop where
  receiver : Guard
  cluster : String
  /-- Whether the headers that the sender received go with those of its context. -/
  keepsHeaders : Bool
  action : String
  payload : Payload
  remoteAddress : Option Address
  channel : Channel

/-- The request that a hop makes of the last delivery. -/
def Hop.request (hop : Hop) (last : Delivery) : Request :=
  let written := Outbound.ofContext hop.cluster last.context
  { action := hop.action
    headers := if hop.keepsHeaders then (last.request.withHeaders written).headers else written
    remoteAddress := hop.remoteAddress
    payload := hop.payload }

/-- What the receiver makes of the request. -/
def Hop.verdict (hop : Hop) (last : Delivery) : Verdict :=
  (hop.receiver.receive (hop.request last) hop.channel).2

/-- The deliveries of the hops, one after another, if every hop dispatches. -/
def through (last : Delivery) : List Hop → Option (List Delivery)
  | [] => some []
  | hop :: rest =>
    match hop.verdict last with
    | .dispatched context =>
      let next : Delivery := ⟨hop.request last, context⟩
      (through next rest).map (next :: ·)
    | _ => none

/-- At every hop that is reached the sender is taken at its word: the channel is direct, or its
peer is recognised as a node. -/
def TakenThroughout (last : Delivery) : List Hop → Prop
  | [] => True
  | hop :: rest =>
    TakenAtItsWord hop.receiver.policy (hop.request last) hop.channel ∧
      ∀ context, hop.verdict last = .dispatched context →
        TakenThroughout ⟨hop.request last, context⟩ rest

/-- What arrives at a hop is what the chain began with, and over the network the sender is of our
cluster exactly when it names a cluster and that is ours. -/
structure Arrives (first : SecurityContext) (hop : Hop) (delivery : Delivery) : Prop where
  identity : delivery.context.identity = first.identity
  address : delivery.context.remoteAddress = first.remoteAddress
  origin : delivery.context.origin = first.origin
  initialClass : delivery.context.initialActionClass = first.initialActionClass
  trust : hop.channel.type = some "netty" → delivery.context.trust =
    some (if hop.cluster ≠ "" ∧ hop.cluster = hop.receiver.clusterName then .interCluster
      else .remoteCluster)

/-- What is handed on of the caller with whom a chain began. -/
structure Caller where
  identity : Identity
  address : Address
  origin : Origin
  initialClass : String
  /-- An empty class would be read as none. -/
  named : initialClass ≠ ""

/-- A context says of a caller all that is handed on. -/
structure OnBehalfOf (caller : Caller) (context : SecurityContext) : Prop where
  identity : context.identity = some caller.identity
  address : context.remoteAddress = some caller.address
  origin : context.origin = some caller.origin
  initialClass : context.initialActionClass = some caller.initialClass

variable {caller : Caller} {hop : Hop} {last : Delivery}

/-- What a hop sends includes the headers of the context. -/
theorem Hop.includes_ofContext (hop : Hop) (last : Delivery) :
    (hop.request last).headers.Includes (Outbound.ofContext hop.cluster last.context) := by
  rw [Hop.request]
  cases hop.keepsHeaders with
  | false => exact fun _ _ stored => stored
  | true => exact Headers.includes_insertAll _ _

/-- What a hop sends says everything of the caller. -/
theorem OnBehalfOf.forwardedBy (held : OnBehalfOf caller last.context) (hop : Hop) :
    ForwardedBy (hop.request last).headers (some caller.identity) (some caller.address)
      (some caller.origin) := by
  have written := Outbound.forwardedBy_ofContext hop.cluster last.context
  rw [held.identity, held.address, held.origin] at written
  have includes := hop.includes_ofContext last
  exact ⟨written.identity.of_includes includes, written.address.of_includes includes,
    written.origin.of_includes includes⟩

/-- What a hop sends says the class that the chain began with. -/
theorem OnBehalfOf.get?_initialClassName (held : OnBehalfOf caller last.context) (hop : Hop) :
    (hop.request last).headers.get? Headers.initialClassName = some caller.initialClass := by
  have written := Outbound.conveys_initialClass_ofContext hop.cluster last.context caller.named
    held.initialClass
  exact (Headers.conveys_itself_iff.1 (written.of_includes (hop.includes_ofContext last))).symm

/-- What a hop sends says the cluster that the sender names, and no older one. -/
theorem Hop.get?_clusterName (hop : Hop) (last : Delivery) :
    (hop.request last).headers.get? Headers.clusterName = (some hop.cluster).filter (· ≠ "") := by
  have stored := hop.includes_ofContext last _ _
    (Outbound.fields_ofContext_clusterName hop.cluster last.context)
  rw [Headers.get?, stored]

/-- A node is of our cluster exactly when it names a cluster and that is ours. -/
theorem nodeTrust_filter (policy : Policy) (cluster : String) :
    nodeTrust policy ((some cluster).filter (· ≠ "")) =
      if cluster ≠ "" ∧ cluster = policy.clusterName then .interCluster else .remoteCluster := by
  have said : (some cluster).filter (· ≠ "") = some policy.clusterName ↔
      cluster ≠ "" ∧ cluster = policy.clusterName := by
    rw [Option.filter_eq_some_iff, Option.some.injEq]
    constructor
    · rintro ⟨rfl, nonempty⟩
      exact ⟨by simpa using nonempty, rfl⟩
    · rintro ⟨nonempty, rfl⟩
      exact ⟨rfl, by simpa using nonempty⟩
  simp only [nodeTrust, said]

/-- A sender that is taken at its word and sends the headers of a caller's context has its request
dispatched on behalf of the caller. -/
theorem OnBehalfOf.verdict (held : OnBehalfOf caller last.context)
    (sender : TakenAtItsWord hop.receiver.policy (hop.request last) hop.channel) :
    ∃ context, hop.verdict last = .dispatched context ∧ OnBehalfOf caller context := by
  obtain ⟨context, dispatched, handedOn⟩ := sender.judge_dispatched (held.forwardedBy hop)
  have initialClass := sender.initialActionClass_eq dispatched
  rw [held.get?_initialClassName hop] at initialClass
  exact ⟨context, dispatched, handedOn.identity, handedOn.address _ rfl, handedOn.origin _ rfl,
    initialClass⟩

/-- Over the network, the sender's cluster settles how far a hop trusts it. -/
theorem Hop.trust_eq (sender : TakenAtItsWord hop.receiver.policy (hop.request last) hop.channel)
    {context : SecurityContext} (dispatched : hop.verdict last = .dispatched context)
    (network : hop.channel.type = some "netty") :
    context.trust =
      some (if hop.cluster ≠ "" ∧ hop.cluster = hop.receiver.clusterName then .interCluster
        else .remoteCluster) := by
  rcases sender with itself | ⟨principal, node⟩
  · exact absurd network itself.type_ne_network
  · have trust := node.trust_eq dispatched
    rwa [hop.get?_clusterName, nodeTrust_filter] at trust

/-- A chain from a context on behalf of a caller arrives, hop by hop. -/
theorem OnBehalfOf.through {first : SecurityContext} (began : OnBehalfOf caller first)
    {hops : List Hop} (held : OnBehalfOf caller last.context)
    (taken : TakenThroughout last hops) :
    ∃ deliveries, through last hops = some deliveries ∧
      List.Forall₂ (Arrives first) hops deliveries := by
  -- The last delivery changes from hop to hop, while the caller stays the same.
  induction hops generalizing last with
  | nil => exact ⟨[], rfl, .nil⟩
  | cons hop rest inductionHypothesis =>
      obtain ⟨sender, later⟩ := taken
      obtain ⟨context, dispatched, again⟩ := held.verdict sender
      let next : Delivery := ⟨hop.request last, context⟩
      have heldNext : OnBehalfOf caller next.context := again
      obtain ⟨deliveries, arrived, all⟩ := inductionHypothesis heldNext (later context dispatched)
      refine ⟨next :: deliveries, ?_, .cons ?_ all⟩
      · simp only [Relay.through, dispatched, next, arrived, Option.map_some]
      · exact
          { identity := again.identity.trans began.identity.symm
            address := again.address.trans began.address.symm
            origin := again.origin.trans began.origin.symm
            initialClass := again.initialClass.trans began.initialClass.symm
            trust := hop.trust_eq sender dispatched }

/-- A caller whom a guard authenticated entered with a context that says all of it. -/
theorem exists_onBehalfOf {guard : Guard} {request : Request} {channel : Channel}
    {context : SecurityContext} (network : channel.type = some "netty")
    (unrecognised : guard.policy.recognisesPeer request channel = false)
    (dispatched : (guard.receive request channel).2 = .dispatched context)
    (authenticated : context.identity ≠ none) (named : request.payload.logicalClass ≠ "") :
    ∃ caller, OnBehalfOf caller context := by
  have judged : judge guard.policy request channel = .dispatched context := dispatched
  rcases sender_of_dispatched judged with itself | ⟨principal, node⟩ | ⟨principal, sender⟩
  · exact absurd network itself.type_ne_network
  · rw [node.recognisesPeer_eq] at unrecognised
    cases unrecognised
  · obtain ⟨_, _, ⟨identity, address, _, _, rfl⟩ | ⟨_, _, rfl⟩⟩ :=
      sender.judge_dispatched_iff.1 judged
    · exact ⟨⟨identity, address, .transport, request.payload.logicalClass, named⟩,
        rfl, rfl, rfl, rfl⟩
    · exact absurd rfl authenticated

/-- However often the request of an authenticated caller is handed on, every hop dispatches, with
the identity, the address, the origin and the initial action class that the caller entered with. -/
theorem through_keepsCaller (guard : Guard) (request : Request) (channel : Channel)
    (context : SecurityContext) (hops : List Hop) (network : channel.type = some "netty")
    (unrecognised : guard.policy.recognisesPeer request channel = false)
    (dispatched : (guard.receive request channel).2 = .dispatched context)
    (authenticated : context.identity ≠ none) (named : request.payload.logicalClass ≠ "")
    (taken : TakenThroughout ⟨request, context⟩ hops) :
    ∃ deliveries, through ⟨request, context⟩ hops = some deliveries ∧
      List.Forall₂ (Arrives context) hops deliveries := by
  obtain ⟨caller, held⟩ :=
    exists_onBehalfOf network unrecognised dispatched authenticated named
  exact held.through held taken

/-- A request is handed on to a node of the same cluster, and from there, over the headers that it
came with, to a node that hears of no cluster: the older claim to be of its cluster is gone. -/
theorem through_keepsCaller_two_hops :
    let entry := (Node.start {} { authentication := ⟨[{ dn := "CN=kirk", user := "kirk" }]⟩ }).guard
    let receiver := (Node.start {} { transport := { nodesDn := ["CN=node"] } }).guard
    let caller : Channel := { type := some "netty", principal := some "CN=kirk" }
    let node : Channel := { type := some "netty", principal := some "CN=node" }
    let address := Address.v4 ⟨10, 0, 0, 7⟩ 9300
    let request : Request := { action := "indices:data/read/search", remoteAddress := some address }
    let context := deliveredContext request "CN=kirk" .untrusted .transport
      (some { name := "kirk" }) (some address) "TransportRequest"
    let first : Hop := ⟨receiver, receiver.clusterName, false, "indices:data/read/search[query]",
      .shardSearch false, none, node⟩
    let second : Hop := ⟨receiver, "", true, "internal:fetch", .named "Fetch", none, node⟩
    caller.type = some "netty" ∧ entry.policy.recognisesPeer request caller = false ∧
      (entry.receive request caller).2 = .dispatched context ∧ context.identity ≠ none ∧
      request.payload.logicalClass ≠ "" ∧ TakenThroughout ⟨request, context⟩ [first, second] ∧
      ∃ arrived again, through ⟨request, context⟩ [first, second] = some [arrived, again] ∧
        arrived.context.trust = some .interCluster ∧
        again.context.trust = some .remoteCluster ∧
        again.context.identity = some { name := "kirk" } ∧
        again.context.remoteAddress = some address ∧
        again.context.initialActionClass = some "TransportRequest" := by
  intro entry receiver caller node address request context first second
  have unrecognised : entry.policy.recognisesPeer request caller = false := by decide
  have dispatched : (entry.receive request caller).2 = .dispatched context := by decide
  have recognised : receiver.policy.recognises request [] [] "CN=node" = true := by decide
  have taken : TakenThroughout ⟨request, context⟩ [first, second] :=
    ⟨.inr ⟨"CN=node", rfl, rfl, rfl, recognised⟩, fun _ _ =>
      ⟨.inr ⟨"CN=node", rfl, rfl, rfl, recognised⟩, fun _ _ => trivial⟩⟩
  obtain ⟨deliveries, arrived, all⟩ := through_keepsCaller entry request caller context
    [first, second] rfl unrecognised dispatched (by decide) (by decide) taken
  obtain ⟨one, rest, firstArrives, restArrive, rfl⟩ := List.forall₂_cons_left_iff.1 all
  obtain ⟨two, none, secondArrives, noMore, rfl⟩ := List.forall₂_cons_left_iff.1 restArrive
  cases noMore
  exact ⟨rfl, unrecognised, dispatched, by decide, by decide, taken, one, two, arrived,
    firstArrives.trust rfl, secondArrives.trust rfl, secondArrives.identity,
    secondArrives.address, secondArrives.initialClass⟩

end Relay

end NodeGate
