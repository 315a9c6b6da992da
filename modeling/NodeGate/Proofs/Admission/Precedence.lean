import NodeGate.Proofs.Admission.Cause
import NodeGate.Proofs.Admission.Consultation
import NodeGate.Session.Pipeline

/-!
# The order of rejections

A request is rejected exactly when a cause applies, with the error of the first one
(`exists_rejected_iff`). The backend is asked at most once, and only about a request that no
earlier cause speaks against (`receive_rejectsInOrder`).
-/

namespace NodeGate.Admission

variable {policy : Policy} {request : Request} {channel : Channel} {principal : String}
  {cause : Cause} {error : GuardError}

namespace Cause

/-- The error of the first cause against a request. -/
abbrev First (policy : Policy) (request : Request) (channel : Channel) (error : GuardError) :
    Prop :=
  FirstOf (Applies policy request channel) precedence error

/-- Only the causes of a list need to be looked at where no others can apply. -/
theorem first_iff {possible : List Cause}
    (only : ∀ cause error, Applies policy request channel cause error → cause ∈ possible) :
    First policy request channel error ↔
      FirstOf (Applies policy request channel) (precedence.filter (· ∈ possible)) error := by
  refine (firstOf_filter (fun cause error applies => ?_) precedence).symm
  exact decide_eq_true (only cause error applies)

/-- A cause that applies is decided by its own error. -/
theorem firstOf_cons_iff {later : List Cause} {own : GuardError}
    (applies : Applies policy request channel cause own) :
    FirstOf (Applies policy request channel) (cause :: later) error ↔ error = own :=
  firstOf_cons_of_applies applies fun _ other => other.unique applies

/-- Against a sender that is believed speaks what its headers are refused over. -/
theorem first_iff_of_believed (isOpen : channel.isClosed = false)
    (believed : Believed policy request channel) (otherwise : Option Address)
    (context : SecurityContext) :
    First policy request channel error ↔
      ∃ filled,
        takeForwarded policy.complaints request otherwise context = .error ⟨error, filled⟩ := by
  rw [first_iff fun cause error applies => applies.of_believed isOpen believed]
  change FirstOf _ [.malformedIdentity, .malformedAddress, .malformedOrigin] error ↔ _
  have refused {own : GuardError} {filled : SecurityContext}
      (taken : takeForwarded policy.complaints request otherwise context = .error ⟨own, filled⟩) :
      error = own ↔ ∃ filled,
        takeForwarded policy.complaints request otherwise context = .error ⟨error, filled⟩ := by
    rw [taken]
    constructor
    · rintro rfl
      exact ⟨filled, rfl⟩
    · rintro ⟨_, ⟨⟩⟩
      rfl
  -- Each header is malformed, and first, or says something, and leaves it to the next.
  rcases identityReader.conveys_or_malformed request.headers Headers.userName with
    ⟨identity, identitySaid⟩ | ⟨reason, malformed⟩
  · have silent : ∀ other, ¬ Applies policy request channel .malformedIdentity other := by
      intro other applies
      cases applies with
      | malformedIdentity _ malformed => exact identityReader.not_malformed identitySaid malformed
    rw [firstOf_cons_of_silent silent]
    rcases addressReader.conveys_or_malformed request.headers Headers.remoteAddressName with
      ⟨address, addressSaid⟩ | ⟨reason, malformed⟩
    · have silent : ∀ other, ¬ Applies policy request channel .malformedAddress other := by
        intro other applies
        cases applies with
        | malformedAddress _ malformed => exact addressReader.not_malformed addressSaid malformed
      rw [firstOf_cons_of_silent silent]
      rcases originReader.conveys_or_malformed request.headers Headers.originName with
        ⟨origin, originSaid⟩ | ⟨reason, malformed⟩
      · have silent : ∀ other, ¬ Applies policy request channel .malformedOrigin other := by
          intro other applies
          cases applies with
          | malformedOrigin _ malformed => exact originReader.not_malformed originSaid malformed
        rw [firstOf_cons_of_silent silent]
        rw [takeForwarded_of_forwardedBy ⟨identitySaid, addressSaid, originSaid⟩]
        simp [not_firstOf_nil]
      · rw [firstOf_cons_iff (.malformedOrigin believed malformed)]
        exact refused (takeForwarded_of_refusedForwarding
          (.origin identitySaid addressSaid malformed))
    · rw [firstOf_cons_iff (.malformedAddress believed malformed)]
      exact refused (takeForwarded_of_refusedForwarding (.address identitySaid malformed))
  · rw [firstOf_cons_iff (.malformedIdentity believed malformed)]
    exact refused (takeForwarded_of_refusedForwarding (.identity malformed))

/-- Against a caller's request for an action open to all speaks its least private name. -/
theorem first_iff_of_forged (isOpen : channel.isClosed = false)
    (peer : Unrecognised policy request channel) (verified : channel.principal = some principal)
    (openToAll : OpenToAll request.action) {name : String}
    (carried : request.headers.LeastPrivate name) :
    First policy request channel error ↔ error = .forgedIdentityHeader name := by
  rw [first_iff fun cause error applies => applies.of_unrecognised isOpen peer verified]
  change FirstOf _ [.reservedAction, .forgedHeader, .backendFailure, .missingAddress,
    .unknownCaller] error ↔ _
  rw [firstOf_cons_of_silent (not_reservedAction_of_openToAll openToAll),
    firstOf_cons_iff (.forgedHeader peer carried)]

/-- Against a caller that may ask, and that forged nothing, speaks what settling the answer of the
backend rejects it for. -/
theorem first_iff_of_settle (isOpen : channel.isClosed = false)
    (peer : Unrecognised policy request channel) (verified : channel.principal = some principal)
    (openToAll : OpenToAll request.action) (unforged : request.headers.firstPrivate? = none)
    (context : SecurityContext) :
    First policy request channel error ↔
      ∃ filled, settle request context
        (policy.authenticate request principal request.action) = .rejected ⟨error, filled⟩ := by
  rw [first_iff fun cause error applies =>
    applies.of_answer isOpen peer verified openToAll unforged]
  cases answered : policy.authenticate request principal request.action with
  | known identity =>
      change FirstOf _ [.missingAddress] error ↔ _
      cases placed : request.remoteAddress with
      | none =>
          rw [firstOf_cons_iff (.missingAddress peer verified answered placed)]
          simp [settle, placed, eq_comm]
      | some address =>
          have silent : ∀ other, ¬ Applies policy request channel .missingAddress other := by
            intro other applies
            cases applies with
            | missingAddress _ _ _ unreachable => simp [placed] at unreachable
          rw [firstOf_cons_of_silent silent]
          simp [settle, placed, not_firstOf_nil]
  | unknown =>
      change FirstOf _ [.unknownCaller] error ↔ _
      cases listed : isUnauthenticatedAction request.action with
      | false =>
          have unlisted := mt isUnauthenticatedAction_iff.2 (Bool.eq_false_iff.1 listed)
          rw [firstOf_cons_iff (.unknownCaller peer verified answered unlisted)]
          simp [settle, listed, eq_comm]
      | true =>
          have silent : ∀ other, ¬ Applies policy request channel .unknownCaller other := by
            intro other applies
            cases applies with
            | unknownCaller _ _ _ unlisted =>
                exact unlisted (isUnauthenticatedAction_iff.1 listed)
          rw [firstOf_cons_of_silent silent]
          simp [settle, listed, not_firstOf_nil]
  | failed failure =>
      change FirstOf _ [.backendFailure] error ↔ _
      rw [firstOf_cons_iff (.backendFailure peer verified answered)]
      simp [settle, eq_comm]
  | pending =>
      change FirstOf _ [] error ↔ _
      simp [settle, not_firstOf_nil]

end Cause

/-- A caller that is no node is not recognised. -/
theorem FromCaller.toUnrecognised (sender : FromCaller policy request channel principal) :
    Unrecognised policy request channel where
  network := kind?_eq_some_iff.1 sender.network
  unrecognised other verified := by
    cases sender.verified.symm.trans verified
    exact sender.unrecognised

/-- A caller is rejected for the first cause that speaks against its request. -/
theorem FromCaller.exists_rejected_iff (sender : FromCaller policy request channel principal) :
    (∃ context, judge policy request channel = .rejected ⟨error, context⟩) ↔
      Cause.First policy request channel error := by
  have peer := sender.toUnrecognised
  rw [sender.judge_eq]
  cases reserved : isReserved request with
  | true =>
      have notOpen := isReserved_eq_true_iff.1 reserved
      rw [Cause.first_iff fun cause error applies =>
        applies.of_unrecognised sender.isOpen peer sender.verified]
      change _ ↔ Cause.FirstOf _ [.reservedAction, .forgedHeader, .backendFailure,
        .missingAddress, .unknownCaller] error
      rw [Cause.firstOf_cons_iff (.reservedAction peer notOpen)]
      simp [eq_comm]
  | false =>
      have openToAll := isReserved_eq_false_iff.1 reserved
      simp only [Bool.false_eq_true, if_false]
      cases found : request.headers.firstPrivate? with
      | some header =>
          rw [Cause.first_iff_of_forged sender.isOpen peer sender.verified openToAll
            (Headers.firstPrivate?_eq_some_iff.1 found)]
          simp [eq_comm]
      | none =>
          exact (Cause.first_iff_of_settle sender.isOpen peer sender.verified openToAll found
            _).symm

/-- A peer that was not verified is rejected for the first cause that speaks against its
request. -/
theorem FromNobody.exists_rejected_iff (sender : FromNobody channel) :
    (∃ context, judge policy request channel = .rejected ⟨error, context⟩) ↔
      Cause.First policy request channel error := by
  have network : channel.type = some "netty" := kind?_eq_some_iff.1 sender.network
  have peer : Unrecognised policy request channel :=
    ⟨network, fun principal verified => by simp [sender.unverified] at verified⟩
  rw [Cause.first_iff fun cause error applies =>
    applies.of_unverified sender.isOpen peer sender.unverified]
  change _ ↔ Cause.FirstOf _ [.reservedAction, .missingCredential, .forgedHeader] error
  rw [sender.judge_eq]
  cases reserved : isReserved request with
  | true =>
      have notOpen := isReserved_eq_true_iff.1 reserved
      rw [Cause.firstOf_cons_iff (.reservedAction peer notOpen)]
      simp [eq_comm]
  | false =>
      have openToAll := isReserved_eq_false_iff.1 reserved
      rw [Cause.firstOf_cons_of_silent (Cause.not_reservedAction_of_openToAll openToAll),
        Cause.firstOf_cons_iff (.missingCredential network sender.unverified)]
      simp [ChannelKind.name, eq_comm]

/-- A sender that is believed is rejected for the first cause that speaks against its request. -/
theorem exists_rejected_iff_of_believed (isOpen : channel.isClosed = false)
    (believed : Believed policy request channel) {otherwise : Option Address}
    {context : SecurityContext} {finish : SecurityContext → SecurityContext}
    (judged : judge policy request channel =
      match takeForwarded policy.complaints request otherwise context with
      | .ok context => .dispatched (finish context)
      | .error refusal => .rejected refusal) :
    (∃ context, judge policy request channel = .rejected ⟨error, context⟩) ↔
      Cause.First policy request channel error := by
  rw [Cause.first_iff_of_believed isOpen believed otherwise context, judged]
  cases takeForwarded policy.complaints request otherwise context <;> simp

/-- A request is rejected exactly when a cause speaks against it, with the error of the first. -/
theorem exists_rejected_iff :
    (∃ context, judge policy request channel = .rejected ⟨error, context⟩) ↔
      Cause.First policy request channel error := by
  cases sender policy request channel with
  | closed closed =>
      change _ ↔ Cause.FirstOf _ (.channelClosed :: _) error
      rw [Cause.firstOf_cons_iff (.channelClosed closed), judge_of_closed closed]
      simp [eq_comm]
  | unsupported isOpen unsupported =>
      have notDirect := type_ne_of_kind?_eq_none unsupported .direct
      have notNetwork := type_ne_of_kind?_eq_none unsupported .network
      rw [Cause.first_iff fun cause error applies =>
        applies.of_unsupported isOpen notDirect notNetwork]
      change _ ↔ Cause.FirstOf _ [.channelUnsupported] error
      rw [Cause.firstOf_cons_iff (.channelUnsupported notDirect notNetwork),
        judge_of_unsupported isOpen unsupported]
      simp [Channel.typeName, eq_comm]
  | itself sender =>
      exact exists_rejected_iff_of_believed sender.isOpen
        (.within (kind?_eq_some_iff.1 sender.direct)) sender.judge_eq
  | node sender =>
      exact exists_rejected_iff_of_believed sender.isOpen
        (.node (kind?_eq_some_iff.1 sender.network) sender.verified sender.recognised)
        sender.judge_eq
  | caller sender => exact sender.exists_rejected_iff
  | nobody sender => exact sender.exists_rejected_iff

/-- On a direct channel a request is rejected because the channel is closed or a header
malformed. -/
theorem error_of_direct (direct : channel.type = some "direct")
    (rejected : Cause.First policy request channel error) :
    error = .channelClosed ∨ ∃ header reason, error = .malformedHeader header reason := by
  have notUnrecognised (peer : Unrecognised policy request channel) : False :=
    peer.not_believed (.within direct)
  obtain ⟨cause, applies⟩ := Cause.FirstOf.exists_applies rejected
  cases applies with
  | channelClosed => exact .inl rfl
  | channelUnsupported notDirect => exact absurd direct notDirect
  | missingCredential network => simp [direct] at network
  | malformedIdentity | malformedAddress | malformedOrigin => exact .inr ⟨_, _, rfl⟩
  | reservedAction peer | forgedHeader peer | backendFailure peer | missingAddress peer
  | unknownCaller peer => exact (notUnrecognised peer).elim

/-- A request is rejected for the first cause that speaks against it, and the backend is asked at
most once, when nothing else does. -/
structure RejectsInOrder (guard : Guard) (request : Request) (channel : Channel) : Prop where
  /-- A request is rejected exactly when a cause speaks against it, with the error of the first. -/
  rejected_iff : ∀ error,
    (∃ context, (guard.receive request channel).2 = .rejected ⟨error, context⟩) ↔
      Cause.FirstOf (Cause.Applies guard.policy request channel) Cause.precedence error
  /-- On a direct channel there are two kinds of error. -/
  direct : channel.type = some "direct" → ∀ refusal,
    (guard.receive request channel).2 = .rejected refusal →
      refusal.error = .channelClosed ∨
        ∃ header reason, refusal.error = .malformedHeader header reason
  /-- At most one question is put to the backend. Exactly the callers that nothing else speaks
  against are asked about, and no answer to another question has a part in the verdict. -/
  asks : ∃ asked : Option BackendCall,
    (guard.receive request channel).1.calls = guard.calls ++ asked.toList ∧
      (∀ call, asked = some call ↔ Consults guard.policy request channel call) ∧
      ∀ authenticate : Request → String → String → BackendAnswer,
        (∀ call, asked = some call → authenticate request call.principal call.action =
          guard.policy.authenticate request call.principal call.action) →
        judge { guard.policy with authenticate } request channel =
          (guard.receive request channel).2
  /-- A request on a direct channel asks nothing. -/
  asksNothing : channel.type = some "direct" →
    (guard.receive request channel).1.calls = guard.calls
  /-- While the backend is silent no more is asked, and what may end the waiting is again the first
  cause that speaks against the request by then. -/
  waits : ∀ {Content : Type} (gateOpen : Bool) (index : Nat) (context : SecurityContext)
    (floor : Session.Floor),
    let polled := Session.poll gateOpen
      (.asking request index context : Session.Pipeline Content) floor
    polled.1.guard.calls = floor.guard.calls ∧
      ∀ outcome, polled.2 = .ended outcome → ∃ error, outcome = .failed error ∧
        Cause.FirstOf (Cause.Applies guard.policy request (floor.channel index))
          Cause.precedence error

/-- Every admission keeps the order of rejections. -/
theorem receive_rejectsInOrder (guard : Guard) (request : Request) (channel : Channel) :
    RejectsInOrder guard request channel where
  rejected_iff _ := exists_rejected_iff
  direct direct refusal rejected :=
    error_of_direct direct (exists_rejected_iff.1 ⟨refusal.context, rejected⟩)
  asks :=
    ⟨backendCall? guard.policy request channel, guard.calls_receive request channel,
      fun _ => backendCall?_eq_some_iff, fun _ agree => judge_withAuthenticate agree⟩
  asksNothing direct := by
    have unasked : backendCall? guard.policy request channel = none := by
      rw [Option.eq_none_iff_forall_ne_some]
      intro call asked
      have network := (backendCall?_eq_some_iff.1 asked).network
      simp [direct] at network
    rw [guard.calls_receive, unasked]
    exact List.append_nil _
  waits gateOpen index context floor := by
    cases closed : floor.isClosed index with
    | false => simp [Session.poll, closed]
    | true =>
        simp only [Session.poll, closed, if_true]
        refine ⟨Guard.calls_bookVerdict _ _ _ (.rejected _), ?_⟩
        rintro outcome ⟨⟩
        exact ⟨_, rfl, .here (.channelClosed closed)⟩

end NodeGate.Admission