import NodeGate.Guard

/-!
# What an operation changes

An operation makes entries in the books and leaves a ledger, and changes nothing else
(`perform_fst`). Which entries it makes is settled by the rules and the ledger of the guard, never
by its books.
-/

namespace NodeGate

open Admission

/-- The ledger that an operation leaves. -/
def CursorLedger.after (ledger : CursorLedger) : Guard.Operation → CursorLedger
  | .createCursor cursor context => ledger.create cursor context
  | .closeCursor cursor => ledger.close cursor
  | _ => ledger

namespace Guard

/-- Two guards decide by the same rules. -/
structure SameRules (left right : Guard) : Prop where
  policy : left.policy = right.policy
  sink : left.sink = right.sink
  protection : left.protection = right.protection

/-- Guards that decide like a second decide like a third if the second does. -/
theorem SameRules.trans {first second third : Guard} (left : first.SameRules second)
    (right : second.SameRules third) : first.SameRules third where
  policy := left.policy.trans right.policy
  sink := left.sink.trans right.sink
  protection := left.protection.trans right.protection

/-- One entry in the books of a guard. -/
inductive Entry where
  | counted (counter : Counter)
  | shown (gauge : Gauge) (value : Nat)
  | written (record : AuditRecord)
  | asked (call : BackendCall)

/-- The guard with an entry made. -/
def note (guard : Guard) : Entry → Guard
  | .counted counter => guard.count counter
  | .shown gauge value => { guard with metrics := guard.metrics.set gauge value }
  | .written record => { guard with journal := guard.journal ++ [record] }
  | .asked call => guard.noteCalls [call]

/-- The guard with entries made, in order. -/
def noteAll (guard : Guard) (entries : List Entry) : Guard :=
  entries.foldl note guard

/-- Entries leave everything but the books alone. -/
theorem noteAll_rest (guard : Guard) (entries : List Entry) :
    (guard.noteAll entries).SameRules guard ∧ (guard.noteAll entries).cursors = guard.cursors := by
  induction entries generalizing guard with
  | nil => exact ⟨⟨rfl, rfl, rfl⟩, rfl⟩
  | cons entry rest inductionHypothesis =>
      have first : (guard.note entry).SameRules guard ∧
          (guard.note entry).cursors = guard.cursors := by
        cases entry <;> exact ⟨⟨rfl, rfl, rfl⟩, rfl⟩
      have later := inductionHypothesis (guard.note entry)
      exact ⟨later.1.trans first.1, later.2.trans first.2⟩

/-- Entries can be made in two goes. -/
theorem noteAll_append (guard : Guard) (first second : List Entry) :
    guard.noteAll (first ++ second) = (guard.noteAll first).noteAll second :=
  List.foldl_append

/-- The entries for a record that goes to a sink. -/
def recordEntries (sink : AuditSink) (record : AuditRecord) : List Entry :=
  if sink.admits record.category then
    .written record :: if sink.counts then [.counted (.auditEvents record.category)] else []
  else []

/-- The entries for a refusal. -/
def errorEntries (sink : AuditSink) (error : GuardError) (action : String)
    (request : RequestSummary) : List Entry :=
  match AuditRecord.ofError? error action request with
  | some record => recordEntries sink record
  | none => []

/-- The entries for a verdict. -/
def verdictEntries (sink : AuditSink) (request : Request) (channel : Channel) :
    Verdict → List Entry
  | .dispatched _ => [.counted (.requests channel.kind? true)]
  | .rejected refusal =>
    .counted (.requests channel.kind? false) :: .counted (.rejections refusal.error.reason) ::
      errorEntries sink refusal.error request.action (request.summary (some refusal.context))
  | .waiting _ => []

/-- The entries that an operation makes. -/
def entries (guard : Guard) : Operation → List Entry
  | .receive request channel =>
    let course := course guard.policy request channel
    course.calls.map Entry.asked ++ verdictEntries guard.sink request channel course.verdict
  | .evaluate action request resolved summary | .enforce action request resolved summary =>
    let decision := (guard.protection.decide action request resolved).1
    (match decision with
      | .deny =>
        recordEntries guard.sink { category := .protectedIndexAttempt, action, request := summary }
      | _ => []) ++ [.counted (.decisions decision.kind)]
  | .createCursor cursor context =>
    [.shown .openCursors (guard.cursors.create cursor context).openCursors]
  | .validateCursor cursor context summary =>
    match guard.cursors.validate cursor context with
    | .ok () => []
    | .error error => errorEntries guard.sink error summary.action summary
  | .closeCursor cursor => [.shown .openCursors (guard.cursors.close cursor).openCursors]

/-- A record makes its entries. -/
theorem record_eq (guard : Guard) (record : AuditRecord) :
    guard.record record = guard.noteAll (recordEntries guard.sink record) := by
  unfold Guard.record recordEntries
  split
  · simp only
    split <;> rfl
  · rfl

/-- A refusal makes its entries. -/
theorem recordError_eq (guard : Guard) (error : GuardError) (action : String)
    (request : RequestSummary) :
    guard.recordError error action request =
      guard.noteAll (errorEntries guard.sink error action request) := by
  unfold recordError errorEntries
  cases AuditRecord.ofError? error action request with
  | some record => exact record_eq guard record
  | none => rfl

/-- A verdict makes its entries. -/
theorem bookVerdict_eq (guard : Guard) (request : Request) (channel : Channel)
    (verdict : Verdict) :
    guard.bookVerdict request channel verdict =
      guard.noteAll (verdictEntries guard.sink request channel verdict) := by
  cases verdict with
  | dispatched context => rfl
  | rejected refusal => exact recordError_eq _ _ _ _
  | waiting context => rfl

/-- Questions make their entries. -/
theorem noteCalls_eq (guard : Guard) (calls : List BackendCall) :
    guard.noteCalls calls = guard.noteAll (calls.map Entry.asked) := by
  induction calls generalizing guard with
  | nil => simp [noteCalls, noteAll]
  | cons call rest inductionHypothesis =>
      have later := inductionHypothesis (guard.noteCalls [call])
      rw [noteCalls, noteCalls, List.append_assoc] at later
      exact later

/-- An admission makes its entries. -/
theorem receive_fst (guard : Guard) (request : Request) (channel : Channel) :
    (guard.receive request channel).1 =
      guard.noteAll (guard.entries (.receive request channel)) := by
  simp only [receive, noteCalls_eq, bookVerdict_eq, entries, noteAll_append]
  rw [(noteAll_rest guard _).1.sink]

/-- A decision on indices makes its entries. -/
theorem evaluate_fst (guard : Guard) (action : String) (request : IndicesRequest)
    (resolved : ResolvedIndices) (summary : RequestSummary) :
    (guard.evaluate action request resolved summary).1 =
      guard.noteAll (guard.entries (.evaluate action request resolved summary)) := by
  simp only [evaluate, entries, noteAll_append]
  cases (guard.protection.decide action request resolved).1 with
  | deny => exact congrArg (count · _) (record_eq guard _)
  | allow | filter => rfl

/-- Enforcing a decision on indices leaves what deciding leaves. -/
theorem enforce_fst (guard : Guard) (action : String) (request : IndicesRequest)
    (resolved : ResolvedIndices) (summary : RequestSummary) :
    (guard.enforce action request resolved summary).1 =
      (guard.evaluate action request resolved summary).1 := by
  simp only [enforce]
  split <;> rfl

/-- Whoever may not go on with a cursor lacks a privilege, by each of the errors that say so. -/
theorem category?_of_validate {ledger : CursorLedger} {cursor : String} {context : SecurityContext}
    {error : GuardError} (refused : ledger.validate cursor context = .error error) :
    error.category? = some .missingPrivileges := by
  unfold CursorLedger.validate CursorOwner.check at refused
  split at refused
  · split at refused
    · cases refused
    · cases refused
      rfl
  · split at refused
    · cases refused
    · cases refused
      rfl
  · cases refused
    rfl
  · cases refused
    rfl

/-- A request to go on with a cursor makes its entries: the record that is written for a refusal
is the one that its error calls for. -/
theorem validateCursor_fst (guard : Guard) (cursor : String) (context : SecurityContext)
    (summary : RequestSummary) :
    (guard.validateCursor cursor context summary).1 =
      guard.noteAll (guard.entries (.validateCursor cursor context summary)) := by
  simp only [validateCursor, entries]
  cases validated : guard.cursors.validate cursor context with
  | ok => rfl
  | error error =>
      have category := category?_of_validate validated
      simp only [errorEntries, AuditRecord.ofError?, category, Option.map_some]
      exact record_eq guard _

/-- A record comes into the journal where the sink takes its category. -/
theorem journal_record (guard : Guard) (record : AuditRecord) :
    (guard.record record).journal =
      guard.journal ++ if guard.sink.admits record.category = true then [record] else [] := by
  unfold Guard.record
  cases guard.sink.admits record.category with
  | false => simp
  | true => cases guard.sink.counts <;> simp [count]

/-- A guard that has the cursors of another one already. -/
theorem eq_with_cursors {guard : Guard} {cursors : CursorLedger}
    (same : guard.cursors = cursors) : guard = { guard with cursors } := by
  rw [← same]

/-- An operation makes its entries and leaves its ledger. -/
theorem perform_fst (guard : Guard) (operation : Operation) :
    (guard.perform operation).1 =
      { guard.noteAll (guard.entries operation) with cursors := guard.cursors.after operation } := by
  have kept := (noteAll_rest guard (guard.entries operation)).2
  cases operation with
  | receive request channel =>
      exact (receive_fst guard request channel).trans (eq_with_cursors kept)
  | evaluate action request resolved summary =>
      exact (evaluate_fst guard action request resolved summary).trans (eq_with_cursors kept)
  | enforce action request resolved summary =>
      exact (enforce_fst guard action request resolved summary).trans
        ((evaluate_fst guard action request resolved summary).trans (eq_with_cursors kept))
  | createCursor cursor context => rfl
  | validateCursor cursor context summary =>
      exact (validateCursor_fst guard cursor context summary).trans (eq_with_cursors kept)
  | closeCursor cursor => rfl

/-- An operation leaves the rules alone. -/
theorem perform_sameRules (guard : Guard) (operation : Operation) :
    (guard.perform operation).1.SameRules guard := by
  have kept := (noteAll_rest guard (guard.entries operation)).1
  rw [perform_fst]
  exact ⟨kept.policy, kept.sink, kept.protection⟩

/-- An operation changes the ledger only where it creates or closes a cursor. -/
theorem perform_cursors (guard : Guard) (operation : Operation) :
    (guard.perform operation).1.cursors = guard.cursors.after operation := by
  rw [perform_fst]

/-- The guard after a run of operations. -/
def run (guard : Guard) (operations : List Operation) : Guard :=
  operations.foldl (fun guard operation => (guard.perform operation).1) guard

/-- A run that goes on by one operation. -/
theorem run_append_singleton (guard : Guard) (operations : List Operation)
    (operation : Operation) :
    guard.run (operations ++ [operation]) = ((guard.run operations).perform operation).1 := by
  rw [run, List.foldl_append]
  rfl

end Guard

end NodeGate
