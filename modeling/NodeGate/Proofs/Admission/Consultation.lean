import NodeGate.Proofs.Admission.Untrusted

/-!
# The question to the backend

Admission puts at most one question to the backend. `Consults` says of which requests it does and
what it asks (`backendCall?_eq_some_iff`). No answer to any other question has a part in the
verdict (`judge_withAuthenticate`), and the question is what an admission adds to the list of
questions (`Guard.calls_receive`).
-/

namespace NodeGate

namespace Admission

variable {policy : Policy} {request : Request} {channel : Channel} {principal : String}

/-- The backend is asked about the principal of an open network channel that is verified but no
node's, for an action open to all and without private headers. -/
structure Consults (policy : Policy) (request : Request) (channel : Channel)
    (call : BackendCall) : Prop where
  isOpen : channel.isClosed = false
  network : channel.type = some "netty"
  verified : channel.principal = some call.principal
  unrecognised : policy.recognises request channel.localCertificates channel.peerCertificates
    call.principal = false
  openToAll : OpenToAll request.action
  unforged : Unforged request.headers
  action : call.action = request.action

/-- A sender that is believed is not asked about. -/
theorem FromItself.backendCall?_eq_none (sender : FromItself channel) :
    backendCall? policy request channel = none := by
  rw [backendCall?, sender.course_eq]
  rfl

/-- A node is not asked about. -/
theorem FromNode.backendCall?_eq_none (sender : FromNode policy request channel principal) :
    backendCall? policy request channel = none := by
  rw [backendCall?, sender.course_eq]
  rfl

/-- A caller is asked about where its action is open to all and it forged nothing. -/
theorem FromCaller.backendCall?_eq (sender : FromCaller policy request channel principal) :
    backendCall? policy request channel =
      if isReserved request = false ∧ request.headers.firstPrivate? = none then
        some ⟨principal, request.action⟩
      else none := by
  rw [backendCall?, sender.course_eq]
  cases isReserved request with
  | true => rfl
  | false => cases request.headers.firstPrivate? <;> rfl

/-- Nobody is asked about where nobody was verified. -/
theorem FromNobody.backendCall?_eq_none (sender : FromNobody channel) :
    backendCall? policy request channel = none := by
  rw [backendCall?, sender.course_eq]
  rfl

/-- The question that is put to the backend, where one is. -/
theorem backendCall?_eq_some_iff {call : BackendCall} :
    backendCall? policy request channel = some call ↔ Consults policy request channel call := by
  constructor
  · intro asked
    cases sender policy request channel with
    | closed closed => simp [backendCall?, course_of_closed closed] at asked
    | unsupported isOpen unsupported =>
        simp [backendCall?, course_of_unsupported isOpen unsupported] at asked
    | itself sender => simp [sender.backendCall?_eq_none] at asked
    | node sender => simp [sender.backendCall?_eq_none] at asked
    | caller sender =>
        rw [sender.backendCall?_eq] at asked
        split at asked
        · rename_i free
          cases asked
          exact
            { isOpen := sender.isOpen
              network := kind?_eq_some_iff.1 sender.network
              verified := sender.verified
              unrecognised := sender.unrecognised
              openToAll := isReserved_eq_false_iff.1 free.1
              unforged := firstPrivate?_eq_none_iff.1 free.2
              action := rfl }
        · cases asked
    | nobody sender => simp [sender.backendCall?_eq_none] at asked
  · rintro consults
    have sender : FromCaller policy request channel call.principal :=
      ⟨consults.isOpen, kind?_eq_some_iff.2 consults.network, consults.verified,
        consults.unrecognised⟩
    rw [sender.backendCall?_eq, if_pos ⟨isReserved_eq_false_iff.2 consults.openToAll,
      firstPrivate?_eq_none_iff.2 consults.unforged⟩, ← consults.action]

/-- Whoever answers the one question, if there is one, in the same way leaves the verdict the
same. -/
theorem judge_withAuthenticate {authenticate : Request → String → String → BackendAnswer}
    (agree : ∀ call, backendCall? policy request channel = some call →
      authenticate request call.principal call.action =
        policy.authenticate request call.principal call.action) :
    judge { policy with authenticate } request channel = judge policy request channel := by
  have screened : screen { policy with authenticate } request channel =
      screen policy request channel := rfl
  simp only [judge, course, screened]
  cases reached : screen policy request channel with
  | error refusal => rfl
  | ok screening =>
      cases screening with
      | admitted context => rfl
      | consult principal context =>
          have asked : backendCall? policy request channel = some ⟨principal, request.action⟩ := by
            rw [backendCall?, course, reached]
            rfl
          exact congrArg (settle request context) (agree _ asked)

end Admission

namespace Guard

open Admission

/-- Recording leaves the list of questions alone. -/
theorem calls_record (guard : Guard) (record : AuditRecord) :
    (guard.record record).calls = guard.calls := by
  unfold Guard.record
  split
  · simp only
    split <;> rfl
  · rfl

/-- Booking a verdict leaves the list of questions alone. -/
theorem calls_bookVerdict (guard : Guard) (request : Request) (channel : Channel)
    (verdict : Verdict) : (guard.bookVerdict request channel verdict).calls = guard.calls := by
  cases verdict with
  | dispatched | waiting => rfl
  | rejected refusal =>
      simp only [Guard.bookVerdict, Guard.bookRejection, Guard.recordError]
      split
      · exact calls_record _ _
      · rfl

/-- An admission adds its question, if it has one, to the list of questions. -/
theorem calls_receive (guard : Guard) (request : Request) (channel : Channel) :
    (guard.receive request channel).1.calls =
      guard.calls ++ (backendCall? guard.policy request channel).toList := by
  simp only [Guard.receive, calls_bookVerdict, Guard.noteCalls, calls_course]

end Guard

end NodeGate
