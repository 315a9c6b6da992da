import NodeGate.Proofs.Admission.Record
import NodeGate.Proofs.Books.Posting

/-!
# How operations fail

An operation fails when it rejects an admission, denies a request for indices or refuses to go on
with a cursor. `AuditCategory.covers` lists the errors of each category apart from the code that
records them: rejections are recorded by the category of their error, denials and refused cursors
directly. Either way a failure calls for one record, in the one category that covers it, and
nothing else calls for any (`accountFor_perform`). A request that was abandoned with its channel
has not failed.
-/

namespace NodeGate

open Admission

namespace AuditCategory

/-- The errors that a category is for. -/
def covers : AuditCategory → GuardError → Bool
  | .missingPrivileges, .internalActionForbidden _ => true
  | .missingPrivileges, .authenticationFailed _ => true
  | .missingPrivileges, .authenticatorFailure _ => true
  | .missingPrivileges, .missingRemoteAddress => true
  | .missingPrivileges, .cursorOwnershipMismatch => true
  | .missingPrivileges, .noCursorOwner => true
  | .sslException, .channelUnsupported _ => true
  | .sslException, .missingCredential _ => true
  | .badHeaders, .forgedIdentityHeader _ => true
  | .badHeaders, .malformedHeader _ _ => true
  | .protectedIndexAttempt, .protectedResourceDenied _ _ => true
  | _, _ => false

/-- The category under which an error is recorded is the one that covers it. -/
theorem covers_eq (category : AuditCategory) (error : GuardError) :
    category.covers error = decide (error.category? = some category) := by
  cases error <;> cases category <;> rfl

end AuditCategory

namespace Guard

/-- A response is a failure: a rejection for anything but a closed channel, a denial or a refused
continuation of a cursor. -/
def Response.isFailure : Response → Bool
  | .verdict (.rejected refusal) => refusal.error ≠ .channelClosed
  | .decision .deny _ | .enforced (.error _) _ | .validated (.error _) => true
  | _ => false

/-- A response is a failure in a category. -/
def Response.failsIn : Response → AuditCategory → Bool
  | .verdict (.rejected refusal), category => category.covers refusal.error
  | .decision .deny _, category => category = .protectedIndexAttempt
  | .enforced (.error error) _, category | .validated (.error error), category =>
    category.covers error
  | _, _ => false

/-- The records that an operation calls for account for its response: one for a failure, in the
only category in which it is one, and none for anything else. -/
inductive AccountFor : List AuditRecord → Response → Prop where
  | failure {record : AuditRecord} {response : Response} (failed : response.isFailure = true)
      (within : ∀ category, response.failsIn category = decide (record.category = category)) :
      AccountFor [record] response
  | success {response : Response} (passed : response.isFailure = false)
      (outside : ∀ category, response.failsIn category = false) : AccountFor [] response

/-- The record of a rejection accounts for it. A channel that closed leaves nothing to account
for. -/
theorem accountFor_rejected {policy : Policy} {request : Request} {channel : Channel}
    {refusal : Refusal} (rejected : judge policy request channel = .rejected refusal) :
    AccountFor
      (AuditRecord.ofError? refusal.error request.action
        (request.summary (some refusal.context))).toList
      (.verdict (.rejected refusal)) := by
  by_cases closed : refusal.error = .channelClosed
  · rw [closed]
    refine .success ?_ fun category => ?_
    · simp [Response.isFailure, closed]
    · rw [Response.failsIn, closed]
      cases category <;> rfl
  · obtain ⟨category, categorised⟩ := exists_category rejected closed
    rw [AuditRecord.ofError?, categorised]
    refine .failure ?_ fun other => ?_
    · simp [Response.isFailure, closed]
    · simp [Response.failsIn, AuditCategory.covers_eq, categorised]

/-- The records that an operation calls for account for what it answers. -/
theorem accountFor_perform (guard : Guard) (operation : Operation) :
    AccountFor (guard.calledFor operation) (guard.perform operation).2 := by
  cases operation with
  | receive request channel =>
      change AccountFor (guard.calledFor _) (.verdict (judge guard.policy request channel))
      rw [calledFor]
      cases judged : judge guard.policy request channel with
      | rejected refusal => exact accountFor_rejected judged
      | dispatched | waiting => exact .success rfl fun _ => rfl
  | evaluate action request resolved summary | enforce action request resolved summary =>
      simp only [calledFor, perform, enforce, evaluate]
      cases (guard.protection.decide action request resolved).1 with
      | deny => exact .failure rfl fun category => by cases category <;> rfl
      | allow | filter => exact .success rfl fun _ => rfl
  | validateCursor cursor context summary =>
      simp only [calledFor, perform, validateCursor]
      cases validated : guard.cursors.validate cursor context with
      | ok => exact .success rfl fun _ => rfl
      | error error =>
          have category := category?_of_validate validated
          change AccountFor (AuditRecord.ofError? error summary.action summary).toList
            (.validated (.error error))
          rw [AuditRecord.ofError?, category]
          refine .failure rfl fun other => ?_
          rw [Response.failsIn, AuditCategory.covers_eq, category]
          cases other <;> rfl
  | createCursor | closeCursor => exact .success rfl fun _ => rfl

/-- An operation writes one record of a category where it fails in that category and the filter
admits it, and none where it does not. -/
theorem countP_posted (guard : Guard) (operation : Operation) (filter : AuditFilter)
    (category : AuditCategory) :
    (guard.posted filter operation).countP (fun record => record.category = category) =
      if (guard.perform operation).2.failsIn category && filter.admits category then 1 else 0 := by
  have accounted := guard.accountFor_perform operation
  rw [posted]
  generalize guard.calledFor operation = called at accounted
  cases accounted with
  | success passed outside => simp [outside]
  | @failure record _ failed within =>
      rw [within]
      by_cases same : record.category = category
      · subst same
        cases admitted : filter.admits record.category <;> simp [admitted]
      · cases admitted : filter.admits record.category <;> simp [admitted, same]

/-- What is written for a response through a filter: the record of a failure, where the filter
admits the category in which it is one, and nothing else. -/
inductive Written (filter : AuditFilter) (before after : List AuditRecord) (response : Response) :
    Prop where
  | failure {record : AuditRecord} (failed : response.isFailure = true)
      (within : ∀ category, response.failsIn category = decide (record.category = category))
      (recorded : after = before ++ if filter.admits record.category then [record] else []) :
      Written filter before after response
  | success (passed : response.isFailure = false)
      (outside : ∀ category, response.failsIn category = false) (unrecorded : after = before) :
      Written filter before after response

/-- An operation writes the record of its failure. -/
theorem written_perform {guard : Guard} {filter : AuditFilter}
    (filtered : guard.sink = .filtered filter) (operation : Operation) :
    Written filter guard.journal (guard.perform operation).1.journal
      (guard.perform operation).2 := by
  obtain ⟨written, permuted, journal⟩ := exists_journal_perform filtered operation
  have accounted := guard.accountFor_perform operation
  rw [posted] at permuted
  generalize guard.calledFor operation = called at accounted permuted
  cases accounted with
  | success passed outside =>
      cases permuted.eq_nil
      exact .success passed outside (journal.trans (List.append_nil _))
  | @failure record _ failed within =>
      have one : written = if filter.admits record.category then [record] else [] := by
        cases admitted : filter.admits record.category with
        | true => simpa [admitted] using permuted
        | false => simpa [admitted] using permuted
      exact .failure failed within (one ▸ journal)

end Guard

end NodeGate
