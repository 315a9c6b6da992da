import NodeGate.Proofs.Admission.Consultation
import NodeGate.Proofs.Admission.Malformed

/-!
# Spelling of principals

Rules that read a principal in normalised spelling alone cannot tell one spelling of it from
another. Channels that are equal once their principals are normalised come to verdicts that are
equal once the recorded principals are (`normalized_judge_congr`), and have the backend asked about
the same principal (`normalized_backendCall?_congr`). Normalising a verdict touches nothing but the
principal in its context, so the error and every other field are the same.
-/

namespace NodeGate

/-- The channel with its principal in normalised spelling. -/
def Channel.normalized (channel : Channel) : Channel :=
  { channel with principal := channel.principal.map DistinguishedName.normalize }

/-- The context with its principal in normalised spelling. -/
def SecurityContext.normalized (context : SecurityContext) : SecurityContext :=
  { context with principal := context.principal.map DistinguishedName.normalize }

/-- Channels that are equal in normalised spelling are equal, or name one principal in two
spellings. -/
theorem Channel.eq_or_respelled {left right : Channel} (same : left.normalized = right.normalized) :
    left = right ∨ ∃ first second, DistinguishedName.normalize first =
      DistinguishedName.normalize second ∧ left.principal = some first ∧
        right = { left with principal := some second } := by
  obtain ⟨type, principal, peerCertificates, localCertificates, isClosed⟩ := left
  obtain ⟨type', principal', peerCertificates', localCertificates', isClosed'⟩ := right
  simp only [Channel.normalized, Channel.mk.injEq] at same
  obtain ⟨rfl, spelled, rfl, rfl, rfl⟩ := same
  cases principal with
  | none =>
      cases principal' with
      | none => exact .inl rfl
      | some second => cases spelled
  | some first =>
      cases principal' with
      | none => cases spelled
      | some second => exact .inr ⟨first, second, Option.some.inj spelled, rfl, rfl⟩

namespace Admission

/-- The refusal with the principal in normalised spelling. -/
def Refusal.normalized (refusal : Refusal) : Refusal :=
  { refusal with context := refusal.context.normalized }

/-- The verdict with the principal in normalised spelling. -/
def Verdict.normalized : Verdict → Verdict
  | .dispatched context => .dispatched context.normalized
  | .rejected refusal => .rejected refusal.normalized
  | .waiting context => .waiting context.normalized

/-- The question with the principal in normalised spelling. -/
def BackendCall.normalized (call : BackendCall) : BackendCall :=
  { call with principal := DistinguishedName.normalize call.principal }

/-- Rules that read a principal in normalised spelling alone. -/
structure Policy.IgnoresSpelling (policy : Policy) : Prop where
  recognises : ∀ request localCertificates peerCertificates {left right : String},
    DistinguishedName.normalize left = DistinguishedName.normalize right →
      policy.recognises request localCertificates peerCertificates left =
        policy.recognises request localCertificates peerCertificates right
  authenticate : ∀ request action {left right : String},
    DistinguishedName.normalize left = DistinguishedName.normalize right →
      policy.authenticate request left action = policy.authenticate request right action

variable {policy : Policy} {request : Request} {channel left right : Channel} {principal : String}

/-- Forwarded values are taken whatever the principal is. -/
theorem takeForwarded_normalized (complaints : HeaderValue.Complaints) (request : Request)
    (otherwise : Option Address) (context : SecurityContext) :
    takeForwarded complaints request otherwise context.normalized =
      match takeForwarded complaints request otherwise context with
      | .ok filled => .ok filled.normalized
      | .error refusal => .error refusal.normalized := by
  cases taken : takeForwarded complaints request otherwise context with
  | ok filled =>
      obtain ⟨identity, address, origin, forwarded⟩ := exists_forwardedBy_of_takeForwarded taken
      rw [takeForwarded_of_forwardedBy forwarded] at taken
      rw [takeForwarded_of_forwardedBy forwarded]
      cases taken
      rfl
  | error refusal =>
      cases takeForwarded_error_iff.1 taken with
      | identity malformed => exact takeForwarded_of_refusedForwarding (.identity malformed)
      | address identitySaid malformed =>
          exact takeForwarded_of_refusedForwarding (.address identitySaid malformed)
      | origin identitySaid addressSaid malformed =>
          exact takeForwarded_of_refusedForwarding (.origin identitySaid addressSaid malformed)

/-- An answer of the backend is settled whatever the principal is. -/
theorem settle_normalized (request : Request) (context : SecurityContext)
    (answer : BackendAnswer) :
    settle request context.normalized answer = (settle request context answer).normalized := by
  cases answer with
  | known identity =>
      rw [settle, settle]
      cases request.remoteAddress <;> rfl
  | unknown =>
      rw [settle, settle]
      split
      · cases request.remoteAddress <;> rfl
      · rfl
  | failed failure => rfl
  | pending => rfl

/-- What comes of a node's request, but for the spelling of its principal. -/
theorem FromNode.normalized_judge_eq (sender : FromNode policy request channel principal) :
    (judge policy request channel).normalized =
      match takeForwarded policy.complaints request request.remoteAddress
        (peerContext request (policy.classify request channel)
          (DistinguishedName.normalize principal)) with
      | .ok context => .dispatched (complete request context)
      | .error refusal => .rejected refusal := by
  have taken := takeForwarded_normalized policy.complaints request request.remoteAddress
    (peerContext request (policy.classify request channel) principal)
  have named : (peerContext request (policy.classify request channel) principal).normalized =
      peerContext request (policy.classify request channel)
        (DistinguishedName.normalize principal) := rfl
  rw [sender.judge_eq, ← named, taken]
  cases takeForwarded policy.complaints request request.remoteAddress
    (peerContext request (policy.classify request channel) principal) <;> rfl

/-- What comes of a caller's request, but for the spelling of its principal. -/
theorem FromCaller.normalized_judge_eq (sender : FromCaller policy request channel principal) :
    (judge policy request channel).normalized =
      if isReserved request then
        .rejected ⟨.internalActionForbidden request.action, untrustedContext request⟩
      else
        match request.headers.firstPrivate? with
        | some header =>
          .rejected ⟨.forgedIdentityHeader header,
            peerContext request .untrusted (DistinguishedName.normalize principal)⟩
        | none =>
          settle request (peerContext request .untrusted (DistinguishedName.normalize principal))
            (policy.authenticate request principal request.action) := by
  rw [sender.judge_eq]
  cases isReserved request with
  | true => rfl
  | false =>
      cases request.headers.firstPrivate? with
      | some header => rfl
      | none => exact (settle_normalized request (peerContext request .untrusted principal) _).symm

section TwoSpellings

variable (ignores : policy.IgnoresSpelling)
include ignores

/-- A node is a node under every spelling of its principal. -/
theorem FromNode.respelled {first second : String}
    (spelled : DistinguishedName.normalize first = DistinguishedName.normalize second)
    (respelled : right = { left with principal := some second })
    (sender : FromNode policy request left first) : FromNode policy request right second := by
  subst respelled
  exact
    { isOpen := sender.isOpen
      network := sender.network
      verified := rfl
      recognised := (ignores.recognises _ _ _ spelled.symm).trans sender.recognised }

/-- A caller that is no node is none under any spelling of its principal. -/
theorem FromCaller.respelled {first second : String}
    (spelled : DistinguishedName.normalize first = DistinguishedName.normalize second)
    (respelled : right = { left with principal := some second })
    (sender : FromCaller policy request left first) : FromCaller policy request right second := by
  subst respelled
  exact
    { isOpen := sender.isOpen
      network := sender.network
      verified := rfl
      unrecognised := (ignores.recognises _ _ _ spelled.symm).trans sender.unrecognised }

/-- Channels that are equal in normalised spelling come to verdicts that are. -/
theorem normalized_judge_congr (same : left.normalized = right.normalized) :
    (judge policy request left).normalized = (judge policy request right).normalized := by
  rcases Channel.eq_or_respelled same with rfl | ⟨first, second, spelled, verified, respelled⟩
  · rfl
  have closed : right.isClosed = left.isClosed := by rw [respelled]
  have type : right.type = left.type := by rw [respelled]
  have kinds : right.kind? = left.kind? := by rw [Channel.kind?, Channel.kind?, type]
  cases sender policy request left with
  | closed isClosed => rw [judge_of_closed isClosed, judge_of_closed (closed.trans isClosed)]
  | unsupported isOpen unsupported =>
      rw [judge_of_unsupported isOpen unsupported,
        judge_of_unsupported (closed.trans isOpen) (kinds.trans unsupported),
        Channel.typeName, Channel.typeName, type]
  | itself sender =>
      have other : FromItself right :=
        ⟨closed.trans sender.isOpen, kinds.trans sender.direct⟩
      rw [sender.judge_eq, other.judge_eq]
  | node sender =>
      cases verified.symm.trans sender.verified
      have other := sender.respelled ignores spelled respelled
      rw [sender.normalized_judge_eq, other.normalized_judge_eq, sender.classify_eq,
        other.classify_eq, spelled]
  | caller sender =>
      cases verified.symm.trans sender.verified
      have other := sender.respelled ignores spelled respelled
      rw [sender.normalized_judge_eq, other.normalized_judge_eq, spelled,
        ignores.authenticate request request.action spelled]
  | nobody sender => cases verified.symm.trans sender.unverified

/-- What is asked under one spelling of a principal is asked under every other. -/
theorem exists_backendCall?_of_normalized (same : left.normalized = right.normalized)
    {call : BackendCall} (asked : backendCall? policy request left = some call) :
    ∃ respelled, backendCall? policy request right = some respelled ∧
      call.normalized = respelled.normalized := by
  rcases Channel.eq_or_respelled same with rfl | ⟨first, second, spelled, verified, rfl⟩
  · exact ⟨call, asked, rfl⟩
  have consults := backendCall?_eq_some_iff.1 asked
  obtain ⟨principal, action⟩ := call
  cases verified.symm.trans consults.verified
  refine ⟨⟨second, action⟩, backendCall?_eq_some_iff.2 ?_, ?_⟩
  · exact
      { consults with
        verified := rfl
        unrecognised := (ignores.recognises _ _ _ spelled.symm).trans consults.unrecognised }
  · rw [BackendCall.normalized, BackendCall.normalized, spelled]

/-- Channels that are equal in normalised spelling have the same question put to the backend. -/
theorem normalized_backendCall?_congr (same : left.normalized = right.normalized) :
    (backendCall? policy request left).map BackendCall.normalized =
      (backendCall? policy request right).map BackendCall.normalized := by
  cases asked : backendCall? policy request left with
  | some call =>
      obtain ⟨respelled, asked', spelled⟩ := exists_backendCall?_of_normalized ignores same asked
      rw [asked', Option.map_some, Option.map_some, spelled]
  | none =>
      cases asked' : backendCall? policy request right with
      | none => rfl
      | some call =>
          obtain ⟨_, asked'', _⟩ := exists_backendCall?_of_normalized ignores same.symm asked'
          cases asked.symm.trans asked''

end TwoSpellings

end Admission

end NodeGate
