import NodeGate.Proofs.Admission.Law
import NodeGate.Proofs.Reload.InForce

/-!
# Headers of untrusted peers

Of the headers that a peer which is no node sends, admission asks one thing: which private name
is the least, if there is any. `receive_congr` says that two requests which agree on this, and
otherwise differ only in headers, come to the same and leave the same books.
`run_headersWithoutInfluence` draws the consequences for every node, whatever it went through.
-/

namespace NodeGate

namespace Admission

/-- Rules that do not read headers to recognise a node or to ask the backend. -/
structure Policy.IgnoresHeaders (policy : Policy) : Prop where
  recognises : ∀ request headers,
    policy.recognises { request with headers } = policy.recognises request
  authenticate : ∀ request headers,
    policy.authenticate { request with headers } = policy.authenticate request

/-- The channel is an open network channel whose peer is not recognised as a node, whether it was
verified or not. -/
structure FromUntrusted (policy : Policy) (request : Request) (channel : Channel) : Prop where
  isOpen : channel.isClosed = false
  network : channel.kind? = some .network
  unrecognised : policy.recognisesPeer request channel = false

/-- The context of a request from an untrusted peer before its principal is looked at. -/
def untrustedContext (request : Request) : SecurityContext :=
  { initialContext request with channelKind := some .network, trust := some .untrusted }

/-- The context that a verdict was reached with. -/
def Verdict.context : Verdict → SecurityContext
  | .dispatched context => context
  | .rejected refusal => refusal.context
  | .waiting context => context

/-- An answer is settled alike where the class that a chain began with reads alike. -/
theorem settle_congr {request : Request} {headers : Headers}
    (same : headers.get? Headers.initialClassName = request.headers.get? Headers.initialClassName)
    {context : SecurityContext} {answer : BackendAnswer} :
    settle { request with headers } context answer = settle request context answer := by
  have completed (context : SecurityContext) :
      complete { request with headers } context = complete request context := by
    simp only [complete, stamp, same]
  cases answer with
  | known | unknown => simp only [settle, completed]
  | failed failure => rfl
  | pending => rfl

/-- Settling an answer leaves the trust in the peer as it is. -/
theorem trust_settle (request : Request) (context : SecurityContext) (answer : BackendAnswer) :
    (settle request context answer).context.trust = context.trust := by
  cases answer with
  | known identity =>
      rw [settle]
      cases request.remoteAddress <;> rfl
  | unknown =>
      rw [settle]
      split
      · cases request.remoteAddress <;> rfl
      · rfl
  | failed failure => rfl
  | pending => rfl

namespace FromUntrusted

variable {policy : Policy} {request : Request} {channel : Channel}

/-- An untrusted peer stays untrusted with other headers. -/
theorem withHeaders (sender : FromUntrusted policy request channel)
    (ignores : policy.IgnoresHeaders) (headers : Headers) :
    FromUntrusted policy { request with headers } channel where
  isOpen := sender.isOpen
  network := sender.network
  unrecognised := by
    have unrecognised := sender.unrecognised
    unfold Policy.recognisesPeer at unrecognised ⊢
    rw [ignores.recognises]
    exact unrecognised

/-- An untrusted peer that was verified is a caller. -/
theorem fromCaller (sender : FromUntrusted policy request channel) {principal : String}
    (verified : channel.principal = some principal) :
    FromCaller policy request channel principal where
  isOpen := sender.isOpen
  network := sender.network
  verified := verified
  unrecognised := by
    have unrecognised := sender.unrecognised
    rwa [Policy.recognisesPeer, verified] at unrecognised

/-- The peer is classified as untrusted. -/
theorem classify_eq (sender : FromUntrusted policy request channel) :
    policy.classify request channel = .untrusted := by
  rw [Policy.classify, sender.unrecognised]
  rfl

/-- The stages before the backend: what is reserved to nodes, the principal, private names. -/
theorem screen_eq (sender : FromUntrusted policy request channel) :
    screen policy request channel =
      if isReserved request then
        .error ⟨.internalActionForbidden request.action, untrustedContext request⟩
      else
        match channel.principal with
        | none => .error ⟨.missingCredential ChannelKind.network.name, untrustedContext request⟩
        | some principal =>
          match request.headers.firstPrivate? with
          | some header =>
            .error ⟨.forgedIdentityHeader header, peerContext request .untrusted principal⟩
          | none => .ok (.consult principal (peerContext request .untrusted principal)) := by
  simp only [screen, sender.isOpen, sender.network, screenNetwork, sender.classify_eq,
    Trust.isTrusted, Bool.not_false, Bool.true_and, Bool.false_eq_true, if_false]
  rfl

/-- The stages before the backend depend on the headers by the least private name alone. -/
theorem screen_congr (sender : FromUntrusted policy request channel)
    (ignores : policy.IgnoresHeaders) {headers : Headers}
    (same : headers.firstPrivate? = request.headers.firstPrivate?) :
    screen policy { request with headers } channel = screen policy request channel := by
  rw [sender.screen_eq, (sender.withHeaders ignores headers).screen_eq]
  simp only [same]
  rfl

/-- The backend is asked only where no private name is stored. -/
theorem unforged_of_consult (sender : FromUntrusted policy request channel) {principal : String}
    {context : SecurityContext}
    (consulted : screen policy request channel = .ok (.consult principal context)) :
    Unforged request.headers := by
  rw [sender.screen_eq] at consulted
  apply firstPrivate?_eq_none_iff.1
  split at consulted
  · cases consulted
  split at consulted
  · cases consulted
  split at consulted
  · cases consulted
  · assumption

/-- Requests that differ in headers alone take the same course where the headers have the same
least private name. -/
theorem course_congr (sender : FromUntrusted policy request channel)
    (ignores : policy.IgnoresHeaders) {headers : Headers}
    (same : headers.firstPrivate? = request.headers.firstPrivate?) :
    course policy { request with headers } channel = course policy request channel := by
  have screened := sender.screen_congr ignores same
  rw [course, course, screened]
  cases reached : screen policy request channel with
  | error refusal => rfl
  | ok screening =>
      cases screening with
      | admitted context => rfl
      | consult principal context =>
          -- The answer is settled with the class that the chain began with, which is a private
          -- header too; that the backend was asked means that neither request has one.
          have clean := (sender.withHeaders ignores headers).unforged_of_consult
            (screened.trans reached)
          have unforged := sender.unforged_of_consult reached
          have sameClass : headers.get? Headers.initialClassName =
              request.headers.get? Headers.initialClassName := by
            rw [clean.get?_eq_none (by decide), unforged.get?_eq_none (by decide)]
          simp only [Policy.ask, ignores.authenticate, settle_congr sameClass]

/-- Whatever an untrusted peer's request comes to, its context says that the peer is untrusted. -/
theorem trust_judge (sender : FromUntrusted policy request channel) :
    (judge policy request channel).context.trust = some .untrusted := by
  rw [judge, course, sender.screen_eq]
  cases isReserved request with
  | true => rfl
  | false =>
      cases channel.principal with
      | none => rfl
      | some principal =>
          cases request.headers.firstPrivate? with
          | some header => rfl
          | none => exact trust_settle request (peerContext request .untrusted principal) _

end FromUntrusted

/-- A caller that is no node is an untrusted peer. -/
theorem FromCaller.toUntrusted {policy : Policy} {request : Request} {channel : Channel}
    {principal : String} (sender : FromCaller policy request channel principal) :
    FromUntrusted policy request channel :=
  ⟨sender.isOpen, sender.network, sender.recognisesPeer_eq⟩

/-- A peer that was not verified is an untrusted peer. -/
theorem FromNobody.toUntrusted {policy : Policy} {request : Request} {channel : Channel}
    (sender : FromNobody channel) : FromUntrusted policy request channel :=
  ⟨sender.isOpen, sender.network, by rw [Policy.recognisesPeer, sender.unverified]⟩

/-- Without a principal a request is refused over what is reserved to nodes, or over that. -/
theorem FromNobody.judge_eq {policy : Policy} {request : Request} {channel : Channel}
    (sender : FromNobody channel) :
    judge policy request channel =
      if isReserved request then
        .rejected ⟨.internalActionForbidden request.action, untrustedContext request⟩
      else .rejected ⟨.missingCredential ChannelKind.network.name, untrustedContext request⟩ := by
  rw [judge, sender.course_eq]
  cases isReserved request <;> rfl

/-- A caller's request for an action open to all is refused over the least private name that it
carries. -/
theorem FromCaller.judge_forged {policy : Policy} {request : Request} {channel : Channel}
    {principal : String} (sender : FromCaller policy request channel principal)
    (openToAll : OpenToAll request.action)
    {name : String} (carried : request.headers.LeastPrivate name) :
    judge policy request channel =
      .rejected ⟨.forgedIdentityHeader name, peerContext request .untrusted principal⟩ := by
  rw [sender.judge_eq, isReserved_eq_false_iff.2 openToAll,
    Headers.firstPrivate?_eq_some_iff.2 carried]
  rfl

/-- A verdict is booked with nothing of the headers. -/
theorem bookVerdict_withHeaders (guard : Guard) (request : Request) (headers : Headers)
    (channel : Channel) (verdict : Verdict) :
    guard.bookVerdict { request with headers } channel verdict =
      guard.bookVerdict request channel verdict := by
  cases verdict <;> rfl

/-- Requests of an untrusted peer that differ in headers alone, and have the same least private
name, come to the same and leave the same books. -/
theorem receive_congr {guard : Guard} {request : Request} {channel : Channel}
    (sender : FromUntrusted guard.policy request channel) (ignores : guard.policy.IgnoresHeaders)
    {headers : Headers} (same : headers.firstPrivate? = request.headers.firstPrivate?) :
    guard.receive { request with headers } channel = guard.receive request channel := by
  simp only [Guard.receive, sender.course_congr ignores same, bookVerdict_withHeaders]

/-- What an untrusted peer writes into headers decides nothing but whether it forged one. -/
structure HeadersWithoutInfluence (guard : Guard) (request : Request) (channel : Channel) :
    Prop where
  /-- Without private names, the headers change neither what comes of the request nor the books. -/
  unforged : ∀ left right, Unforged left → Unforged right →
    guard.receive { request with headers := left } channel =
      guard.receive { request with headers := right } channel
  /-- A private name has the request refused, whatever its value; the least one is named. -/
  forged : ∀ headers principal, channel.principal = some principal → OpenToAll request.action →
    (∃ name, headers.HasPrivate name) →
      ∃ least, headers.LeastPrivate least ∧
        (guard.receive { request with headers } channel).2 =
          .rejected ⟨.forgedIdentityHeader least, peerContext request .untrusted principal⟩
  /-- Which private names are sent decides all; no value of any header does. -/
  unread : ∀ left right : Headers, (∀ name, left.HasPrivate name ↔ right.HasPrivate name) →
    guard.receive { request with headers := left } channel =
      guard.receive { request with headers := right } channel
  /-- No header raises the trust in the peer. -/
  untrusted : ∀ headers,
    guard.policy.classify { request with headers } channel = .untrusted ∧
      (guard.receive { request with headers } channel).2.context.trust = some .untrusted

/-- The headers of an untrusted peer have no influence where the rules do not read them. -/
theorem headersWithoutInfluence {guard : Guard} {request : Request} {channel : Channel}
    (sender : FromUntrusted guard.policy request channel)
    (ignores : guard.policy.IgnoresHeaders) : HeadersWithoutInfluence guard request channel := by
  have unread (left right : Headers)
      (same : ∀ name, left.HasPrivate name ↔ right.HasPrivate name) :
      guard.receive { request with headers := left } channel =
        guard.receive { request with headers := right } channel :=
    receive_congr (sender.withHeaders ignores right) ignores (Headers.firstPrivate?_congr same)
  refine ⟨?_, ?_, unread, ?_⟩
  · intro left right leftUnforged rightUnforged
    apply receive_congr (sender.withHeaders ignores right) ignores
    rw [firstPrivate?_eq_none_iff.2 leftUnforged]
    exact (firstPrivate?_eq_none_iff.2 rightUnforged).symm
  · rintro headers principal verified openToAll ⟨name, carried⟩
    have caller := (sender.withHeaders ignores headers).fromCaller verified
    cases found : headers.firstPrivate? with
    | none => exact absurd carried (Headers.firstPrivate?_eq_none_iff_forall.1 found name)
    | some least =>
        have leastPrivate := Headers.leastPrivate_of_firstPrivate? found
        exact ⟨least, leastPrivate, caller.judge_forged openToAll leastPrivate⟩
  · intro headers
    have other := sender.withHeaders ignores headers
    exact ⟨other.classify_eq, other.trust_judge⟩

end Admission

namespace Node

open Admission

/-- The rules of a node recognise peers by their certificates and ask about principals. -/
theorem policy_ignoresHeaders (complaints : HeaderValue.Complaints) (cluster : String)
    (transport : TransportSettings) (authentication : AuthenticationSettings) :
    (policy complaints cluster transport authentication).IgnoresHeaders :=
  ⟨fun _ _ => rfl, fun _ _ => rfl⟩

/-- Whatever a node went through, the headers of a peer that it does not recognise have no
influence beyond the forgery of a private name. -/
theorem run_headersWithoutInfluence (complaints : HeaderValue.Complaints) (started : Settings)
    (events : List Event) (request : Request) (channel : Channel)
    (network : channel.type = some "netty") (isOpen : channel.isClosed = false)
    (unrecognised : ((start complaints started).run events).guard.policy.recognisesPeer request
      channel = false) :
    HeadersWithoutInfluence ((start complaints started).run events).guard request channel := by
  have ignores : ((start complaints started).run events).guard.policy.IgnoresHeaders := by
    rw [(run_sameRules complaints started events).policy]
    exact policy_ignoresHeaders _ _ _ _
  exact headersWithoutInfluence ⟨isOpen, kind?_eq_some_iff.2 network, unrecognised⟩ ignores

/-- After a reload, a caller that claims to be of the node's own cluster is refused as one that
claims nothing by the same header. -/
theorem run_headersWithoutInfluence_claimed_cluster :
    let node := (start {} {}).run [.reload { transport := { nodesDn := ["CN=node"] } }]
    let channel : Channel := { type := some "netty", principal := some "CN=kirk" }
    let request : Request := { action := "indices:data/read/search" }
    let claiming := Headers.ofList [("_sg_remotecn", node.guard.clusterName)]
    let silent := Headers.ofList [("_sg_remotecn", "")]
    channel.type = some "netty" ∧ channel.isClosed = false ∧
      node.guard.policy.recognisesPeer request channel = false ∧
      node.guard.receive { request with headers := claiming } channel =
        node.guard.receive { request with headers := silent } channel ∧
      ∃ refusal, (node.guard.receive { request with headers := claiming } channel).2 =
          .rejected refusal ∧
        refusal.error = .forgedIdentityHeader "_sg_remotecn" ∧
        refusal.context.trust = some .untrusted := by
  intro node channel request claiming silent
  have unrecognised : node.guard.policy.recognisesPeer request channel = false := by decide
  have names : claiming.fields.names = ["_sg_remotecn"] := by decide
  have influence := run_headersWithoutInfluence {} {}
    [.reload { transport := { nodesDn := ["CN=node"] } }] request channel rfl rfl unrecognised
  have same (name : String) : claiming.HasPrivate name ↔ silent.HasPrivate name := by
    rw [Headers.hasPrivate_iff, Headers.hasPrivate_iff, names]
    rfl
  have carried : claiming.HasPrivate "_sg_remotecn" :=
    Headers.hasPrivate_iff.2 ⟨by rw [names]; exact List.mem_singleton_self _, by decide⟩
  obtain ⟨least, leastPrivate, refused⟩ :=
    influence.forged claiming "CN=kirk" rfl (.inr (by decide)) ⟨_, carried⟩
  have named : least = "_sg_remotecn" := by
    have listed := (Headers.hasPrivate_iff.1 leastPrivate.toHasPrivate).1
    rwa [names, List.mem_singleton] at listed
  rw [named] at refused
  exact ⟨rfl, rfl, unrecognised, influence.unread claiming silent same, _, refused, rfl, rfl⟩

end Node

end NodeGate
