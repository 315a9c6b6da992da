import NodeGate.Admission
import NodeGate.Audit
import NodeGate.Cursor
import NodeGate.InFlight
import NodeGate.Outbound
import NodeGate.ProtectedIndex

/-!
# The guard

Admission, the protected index and the cursor ledger put together with the books they keep: the
metrics, the journal of audit records and the list of questions to the backend. Every operation
takes a guard to the guard after it and a result. A rejected admission, a denied request for
indices and a rejected continuation of a cursor each leave one record where the sink writes its
category.
-/

namespace NodeGate

open Admission

/-- A guard with its books. -/
structure Guard extends InFlight where
  policy : Policy
  sink : AuditSink
  protection : ProtectedIndex
  cursors : CursorLedger := {}
  /-- The audit records that were written, in order. -/
  journal : List AuditRecord := []
  /-- The questions that were put to the backend, in order. -/
  calls : List BackendCall := []

namespace Guard

/-- The name of the cluster that the guard belongs to. -/
def clusterName (guard : Guard) : String :=
  guard.policy.clusterName

/-- A request begins. -/
def enter (guard : Guard) : Guard :=
  { guard with toInFlight := guard.toInFlight.enter }

/-- A request ends. -/
def leave (guard : Guard) : Guard :=
  { guard with toInFlight := guard.toInFlight.leave }

/-- One event is counted. -/
def count (guard : Guard) (counter : Counter) : Guard :=
  { guard with metrics := guard.metrics.increment counter }

/-- A record goes to the sink. -/
def record (guard : Guard) (record : AuditRecord) : Guard :=
  if guard.sink.admits record.category then
    let written := { guard with journal := guard.journal ++ [record] }
    if guard.sink.counts then written.count (.auditEvents record.category) else written
  else guard

/-- The record of a refusal goes to the sink, if the refusal calls for one. -/
def recordError (guard : Guard) (error : GuardError) (action : String)
    (request : RequestSummary) : Guard :=
  match AuditRecord.ofError? error action request with
  | some record => guard.record record
  | none => guard

/-- Questions to the backend are noted. -/
def noteCalls (guard : Guard) (calls : List BackendCall) : Guard :=
  { guard with calls := guard.calls ++ calls }

/-- The books after a refused admission: it is counted, also by reason, and recorded with what the
context knew. -/
def bookRejection (guard : Guard) (request : Request) (channel : Channel) (refusal : Refusal) :
    Guard :=
  let counted := (guard.count (.requests channel.kind? false)).count
    (.rejections refusal.error.reason)
  counted.recordError refusal.error request.action (request.summary (some refusal.context))

/-- The books after a verdict. -/
def bookVerdict (guard : Guard) (request : Request) (channel : Channel) : Verdict → Guard
  | .dispatched _ => guard.count (.requests channel.kind? true)
  | .rejected refusal => guard.bookRejection request channel refusal
  | .waiting _ => guard

/-- Admit or refuse a request. -/
def receive (guard : Guard) (request : Request) (channel : Channel) : Guard × Verdict :=
  let course := Admission.course guard.policy request channel
  ((guard.noteCalls course.calls).bookVerdict request channel course.verdict, course.verdict)

/-- Decide on a request for indices. A denial is recorded. -/
def evaluate (guard : Guard) (action : String) (request : IndicesRequest)
    (resolved : ResolvedIndices) (summary : RequestSummary) :
    Guard × Decision × IndicesRequest :=
  let (decision, after) := guard.protection.decide action request resolved
  let recorded := match decision with
    | .deny => guard.record { category := .protectedIndexAttempt, action, request := summary }
    | _ => guard
  (recorded.count (.decisions decision.kind), decision, after)

/-- Decide on a request for indices and refuse it when it is denied. -/
def enforce (guard : Guard) (action : String) (request : IndicesRequest)
    (resolved : ResolvedIndices) (summary : RequestSummary) :
    Guard × Except GuardError Unit × IndicesRequest :=
  let (guard, decision, after) := guard.evaluate action request resolved summary
  match decision with
  | .deny => (guard, .error (.protectedResourceDenied action guard.protection.index), after)
  | _ => (guard, .ok (), after)

/-- The ledger replaced, and the number of open cursors shown. -/
def setCursors (guard : Guard) (cursors : CursorLedger) : Guard :=
  { guard with cursors, metrics := guard.metrics.set .openCursors cursors.openCursors }

/-- A cursor was created under a context. -/
def createCursor (guard : Guard) (cursor : String) (context : SecurityContext) : Guard :=
  guard.setCursors (guard.cursors.create cursor context)

/-- A context asks to go on with a cursor. A refusal is recorded as a missing privilege, whatever
its error. -/
def validateCursor (guard : Guard) (cursor : String) (context : SecurityContext)
    (summary : RequestSummary) : Guard × Except GuardError Unit :=
  match guard.cursors.validate cursor context with
  | .ok () => (guard, .ok ())
  | .error error =>
    let record := { category := .missingPrivileges, action := summary.action, request := summary }
    (guard.record record, .error error)

/-- A cursor was closed; its record is given back. -/
def closeCursor (guard : Guard) (cursor : String) : Guard × Option CursorOwner :=
  (guard.setCursors (guard.cursors.close cursor), guard.cursors.owner? cursor)

/-- What a guard can be asked to do. -/
inductive Operation where
  | receive (request : Request) (channel : Channel)
  | evaluate (action : String) (request : IndicesRequest) (resolved : ResolvedIndices)
      (summary : RequestSummary)
  | enforce (action : String) (request : IndicesRequest) (resolved : ResolvedIndices)
      (summary : RequestSummary)
  | createCursor (cursor : String) (context : SecurityContext)
  | validateCursor (cursor : String) (context : SecurityContext) (summary : RequestSummary)
  | closeCursor (cursor : String)

/-- What an operation answers. -/
inductive Response where
  | verdict (verdict : Verdict)
  | decision (decision : Decision) (after : IndicesRequest)
  | enforced (result : Except GuardError Unit) (after : IndicesRequest)
  | created
  | validated (result : Except GuardError Unit)
  | closed (owner : Option CursorOwner)

/-- One operation. -/
def perform (guard : Guard) : Operation → Guard × Response
  | .receive request channel =>
    let (guard, verdict) := guard.receive request channel
    (guard, .verdict verdict)
  | .evaluate action request resolved summary =>
    let (guard, decision, after) := guard.evaluate action request resolved summary
    (guard, .decision decision after)
  | .enforce action request resolved summary =>
    let (guard, result, after) := guard.enforce action request resolved summary
    (guard, .enforced result after)
  | .createCursor cursor context => (guard.createCursor cursor context, .created)
  | .validateCursor cursor context summary =>
    let (guard, result) := guard.validateCursor cursor context summary
    (guard, .validated result)
  | .closeCursor cursor =>
    let (guard, owner) := guard.closeCursor cursor
    (guard, .closed owner)

end Guard

end NodeGate
