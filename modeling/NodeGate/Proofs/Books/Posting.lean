import NodeGate.Proofs.Guard

/-!
# What an operation posts

The entries of an operation bring records into the journal and raise counters. Apart from audit
events, the counters are settled by the operation alone (`ownCounters`); a record is posted, and
counted as an audit event, where the operation fails in a way that calls for one and the filter
admits it (`records_entries`, `counters_entries`).
-/

namespace NodeGate

open Admission

namespace Metrics

/-- The sum of the pairs whose key is selected. -/
def sumOf (select : Counter → Bool) (pairs : List (Counter × Nat)) : Nat :=
  (pairs.filter fun pair => select pair.1).foldr (fun pair sum => pair.2 + sum) 0

/-- One more for a key is one more in the sum if the key is selected. -/
theorem sumOf_update (select : Counter → Bool) (counter : Counter)
    (pairs : List (Counter × Nat)) :
    sumOf select (update counter (· + 1) pairs) =
      sumOf select pairs + if select counter then 1 else 0 := by
  induction pairs with
  | nil => cases selected : select counter <;> simp [update, sumOf, selected]
  | cons pair rest inductionHypothesis =>
      obtain ⟨other, value⟩ := pair
      by_cases here : other = counter
      · subst here
        cases selected : select other with
        | true =>
            simp [update, sumOf, selected]
            omega
        | false => simp [update, sumOf, selected]
      · simp only [sumOf] at inductionHypothesis
        cases selected : select other with
        | true =>
            simp [update, sumOf, here, selected, inductionHypothesis]
            omega
        | false => simp [update, sumOf, here, selected, inductionHypothesis]

/-- Counting adds one to the sum of a kind if the counter is of that kind. -/
theorem total_increment (metrics : Metrics) (counter : Counter) (select : Counter → Bool) :
    (metrics.increment counter).total select =
      metrics.total select + if select counter then 1 else 0 :=
  sumOf_update select counter metrics.counters

end Metrics

namespace Guard

/-- The records that an entry writes. -/
def Entry.records : Entry → List AuditRecord
  | .written record => [record]
  | _ => []

/-- The counters that an entry raises. -/
def Entry.counters : Entry → List Counter
  | .counted counter => [counter]
  | _ => []

/-- An entry adds its records to the journal. -/
theorem journal_note (guard : Guard) (entry : Entry) :
    (guard.note entry).journal = guard.journal ++ entry.records := by
  cases entry with
  | written record => rfl
  | counted | shown | asked => exact (List.append_nil _).symm

/-- An entry adds its counters to every sum. -/
theorem total_note (guard : Guard) (entry : Entry) (select : Counter → Bool) :
    (guard.note entry).metrics.total select =
      guard.metrics.total select + entry.counters.countP select := by
  cases entry with
  | counted counter =>
      rw [Entry.counters, List.countP_singleton]
      exact guard.metrics.total_increment counter select
  | shown | written | asked => rfl

/-- An entry raises each counter as often as it names it. -/
theorem count_note (guard : Guard) (entry : Entry) (counter : Counter) :
    (guard.note entry).metrics.count counter =
      guard.metrics.count counter + entry.counters.count counter := by
  cases entry with
  | counted other =>
      rw [Entry.counters, List.count_singleton, note, Guard.count, Metrics.count_increment]
      simp only [beq_iff_eq, eq_comm (a := other)]
  | shown | written | asked => rfl

/-- Entries add their records to the journal. -/
theorem journal_noteAll (guard : Guard) (entries : List Entry) :
    (guard.noteAll entries).journal = guard.journal ++ entries.flatMap Entry.records := by
  induction entries generalizing guard with
  | nil => exact (List.append_nil _).symm
  | cons entry rest inductionHypothesis =>
      have later := inductionHypothesis (guard.note entry)
      rw [journal_note, List.append_assoc] at later
      exact later

/-- Entries add their counters to every sum. -/
theorem total_noteAll (guard : Guard) (entries : List Entry) (select : Counter → Bool) :
    (guard.noteAll entries).metrics.total select =
      guard.metrics.total select + (entries.flatMap Entry.counters).countP select := by
  induction entries generalizing guard with
  | nil => rfl
  | cons entry rest inductionHypothesis =>
      have later := inductionHypothesis (guard.note entry)
      rw [total_note, Nat.add_assoc] at later
      rw [List.flatMap_cons, List.countP_append]
      exact later

/-- Entries raise each counter as often as they name it. -/
theorem count_noteAll (guard : Guard) (entries : List Entry) (counter : Counter) :
    (guard.noteAll entries).metrics.count counter =
      guard.metrics.count counter + (entries.flatMap Entry.counters).count counter := by
  induction entries generalizing guard with
  | nil => rfl
  | cons entry rest inductionHypothesis =>
      have later := inductionHypothesis (guard.note entry)
      rw [count_note, Nat.add_assoc] at later
      rw [List.flatMap_cons, List.count_append]
      exact later

/-- The record that an operation calls for when it fails: a rejected admission, a denial and a
refused continuation of a cursor each call for the record of their error. -/
def calledFor (guard : Guard) : Operation → List AuditRecord
  | .receive request channel =>
    match judge guard.policy request channel with
    | .rejected refusal =>
      (AuditRecord.ofError? refusal.error request.action
        (request.summary (some refusal.context))).toList
    | _ => []
  | .evaluate action request resolved summary | .enforce action request resolved summary =>
    match (guard.protection.decide action request resolved).1 with
    | .deny => [{ category := .protectedIndexAttempt, action, request := summary }]
    | _ => []
  | .validateCursor cursor context summary =>
    match guard.cursors.validate cursor context with
    | .error error => (AuditRecord.ofError? error summary.action summary).toList
    | .ok () => []
  | .createCursor _ _ | .closeCursor _ => []

/-- The counters that a verdict raises, apart from those of audit events. -/
def verdictCounters (channel : Channel) : Verdict → List Counter
  | .dispatched _ => [.requests channel.kind? true]
  | .rejected refusal => [.requests channel.kind? false, .rejections refusal.error.reason]
  | .waiting _ => []

/-- The counters that an operation raises, apart from those of audit events. -/
def ownCounters (guard : Guard) : Operation → List Counter
  | .receive request channel => verdictCounters channel (judge guard.policy request channel)
  | .evaluate action request resolved _ | .enforce action request resolved _ =>
    [.decisions (guard.protection.decide action request resolved).1.kind]
  | .createCursor _ _ | .validateCursor _ _ _ | .closeCursor _ => []

/-- The records that a filter lets an operation write. -/
def posted (guard : Guard) (filter : AuditFilter) (operation : Operation) : List AuditRecord :=
  (guard.calledFor operation).filter fun record => filter.admits record.category

/-- A record that a filter admits is written and counted, and any other is neither. -/
theorem recordEntries_filtered (filter : AuditFilter) (record : AuditRecord) :
    recordEntries (.filtered filter) record =
      if filter.admits record.category then
        [.written record, .counted (.auditEvents record.category)]
      else [] :=
  rfl

/-- The entries for a refusal are those for the record that it calls for. -/
theorem errorEntries_eq (sink : AuditSink) (error : GuardError) (action : String)
    (request : RequestSummary) :
    errorEntries sink error action request =
      (AuditRecord.ofError? error action request).toList.flatMap (recordEntries sink) := by
  unfold errorEntries
  cases AuditRecord.ofError? error action request <;> simp

/-- The entries for records that go to a filter write those that it admits. -/
theorem records_recordEntries (filter : AuditFilter) (records : List AuditRecord) :
    (records.flatMap (recordEntries (.filtered filter))).flatMap Entry.records =
      records.filter fun record => filter.admits record.category := by
  induction records with
  | nil => rfl
  | cons record rest inductionHypothesis =>
      rw [List.flatMap_cons, List.flatMap_append, inductionHypothesis, recordEntries_filtered,
        List.filter_cons]
      cases filter.admits record.category <;> rfl

/-- The entries for records that go to a filter count those that it admits. -/
theorem counters_recordEntries (filter : AuditFilter) (records : List AuditRecord) :
    (records.flatMap (recordEntries (.filtered filter))).flatMap Entry.counters =
      (records.filter fun record => filter.admits record.category).map
        fun record => .auditEvents record.category := by
  induction records with
  | nil => rfl
  | cons record rest inductionHypothesis =>
      rw [List.flatMap_cons, List.flatMap_append, inductionHypothesis, recordEntries_filtered,
        List.filter_cons]
      cases filter.admits record.category <;> rfl

/-- What is read off the entries of an operation comes from its own counters and from the records
that it calls for, where nothing is read off questions and gauges. -/
theorem flatMap_entries_perm {Content : Type} (read : Entry → List Content)
    (asked : ∀ call, read (.asked call) = [])
    (shown : ∀ gauge value, read (.shown gauge value) = []) (guard : Guard)
    (operation : Operation) :
    ((guard.entries operation).flatMap read).Perm
      (((guard.ownCounters operation).map Entry.counted).flatMap read ++
        ((guard.calledFor operation).flatMap (recordEntries guard.sink)).flatMap read) := by
  cases operation with
  | receive request channel =>
      have silent (calls : List BackendCall) : (calls.map Entry.asked).flatMap read = [] := by
        simp [List.flatMap_map, asked]
      simp only [entries, ownCounters, calledFor, judge, List.flatMap_append, silent,
        List.nil_append]
      cases (course guard.policy request channel).verdict with
      | dispatched context => simp [verdictEntries, verdictCounters]
      | rejected refusal => simp [verdictEntries, verdictCounters, errorEntries_eq]
      | waiting context => simp [verdictEntries, verdictCounters]
  | evaluate action request resolved summary | enforce action request resolved summary =>
      simp only [entries, ownCounters, calledFor, List.flatMap_append]
      cases (guard.protection.decide action request resolved).1 with
      | deny => simpa using List.perm_append_comm
      | allow | filter => simp
  | createCursor cursor context => simp [entries, ownCounters, calledFor, shown]
  | validateCursor cursor context summary =>
      simp only [entries, ownCounters, calledFor]
      cases guard.cursors.validate cursor context with
      | ok => simp
      | error error => simp [errorEntries_eq]
  | closeCursor cursor => simp [entries, ownCounters, calledFor, shown]

/-- An operation writes the records that it calls for, as far as the filter admits them. -/
theorem records_entries_perm {guard : Guard} {filter : AuditFilter}
    (filtered : guard.sink = .filtered filter) (operation : Operation) :
    ((guard.entries operation).flatMap Entry.records).Perm (guard.posted filter operation) := by
  have parts := flatMap_entries_perm Entry.records (fun _ => rfl) (fun _ _ => rfl) guard operation
  have none : ((guard.ownCounters operation).map Entry.counted).flatMap Entry.records = [] := by
    simp [Entry.records]
  rw [none, filtered, records_recordEntries] at parts
  exact parts

/-- An operation raises its own counters and those of the audit events that it writes. -/
theorem counters_entries_perm {guard : Guard} {filter : AuditFilter}
    (filtered : guard.sink = .filtered filter) (operation : Operation) :
    ((guard.entries operation).flatMap Entry.counters).Perm
      (guard.ownCounters operation ++
        (guard.posted filter operation).map fun record => .auditEvents record.category) := by
  have parts := flatMap_entries_perm Entry.counters (fun _ => rfl) (fun _ _ => rfl) guard operation
  have own : ((guard.ownCounters operation).map Entry.counted).flatMap Entry.counters =
      guard.ownCounters operation := by
    simp [List.flatMap_map, Entry.counters]
  rw [own, filtered, counters_recordEntries] at parts
  exact parts

/-- An operation adds its own counters to the sum of a kind that holds no audit events. -/
theorem total_perform {guard : Guard} {filter : AuditFilter}
    (filtered : guard.sink = .filtered filter) (operation : Operation)
    {select : Counter → Bool} (other : ∀ category, select (.auditEvents category) = false) :
    (guard.perform operation).1.metrics.total select =
      guard.metrics.total select + (guard.ownCounters operation).countP select := by
  have audited : ((guard.posted filter operation).map fun record =>
      Counter.auditEvents record.category).countP select = 0 := by
    rw [List.countP_map, List.countP_eq_zero]
    intro record _ selected
    exact Bool.false_ne_true ((other record.category).symm.trans selected)
  rw [perform_fst]
  change (guard.noteAll (guard.entries operation)).metrics.total select = _
  rw [total_noteAll, (counters_entries_perm filtered operation).countP_eq, List.countP_append,
    audited, Nat.add_zero]

/-- An operation raises a counter that is no audit event as often as it is one of its own. -/
theorem count_perform {guard : Guard} {filter : AuditFilter}
    (filtered : guard.sink = .filtered filter) (operation : Operation) {counter : Counter}
    (other : ∀ category, counter ≠ .auditEvents category) :
    (guard.perform operation).1.metrics.count counter =
      guard.metrics.count counter + (guard.ownCounters operation).count counter := by
  have audited : ((guard.posted filter operation).map fun record =>
      Counter.auditEvents record.category).count counter = 0 := by
    rw [List.count_eq_zero, List.mem_map]
    rintro ⟨record, _, same⟩
    exact other record.category same.symm
  rw [perform_fst]
  change (guard.noteAll (guard.entries operation)).metrics.count counter = _
  rw [count_noteAll, (counters_entries_perm filtered operation).count_eq, List.count_append,
    audited, Nat.add_zero]

/-- No operation has an audit event of its own. -/
theorem count_ownCounters_auditEvents (guard : Guard) (operation : Operation)
    (category : AuditCategory) :
    (guard.ownCounters operation).count (.auditEvents category) = 0 := by
  apply List.count_eq_zero.2
  cases operation with
  | receive request channel =>
      rw [ownCounters]
      cases judge guard.policy request channel <;> simp [verdictCounters]
  | evaluate | enforce | createCursor | validateCursor | closeCursor => simp [ownCounters]

/-- An operation counts the audit events of the records that it writes. -/
theorem count_auditEvents_perform {guard : Guard} {filter : AuditFilter}
    (filtered : guard.sink = .filtered filter) (operation : Operation)
    (category : AuditCategory) :
    (guard.perform operation).1.metrics.count (.auditEvents category) =
      guard.metrics.count (.auditEvents category) +
        (guard.posted filter operation).countP fun record => record.category = category := by
  have named : (fun other => other == Counter.auditEvents category) ∘
      (fun record : AuditRecord => Counter.auditEvents record.category) =
        fun record => decide (record.category = category) := by
    funext record
    rw [Bool.eq_iff_iff]
    simp
  rw [perform_fst]
  change (guard.noteAll (guard.entries operation)).metrics.count _ = _
  rw [count_noteAll, (counters_entries_perm filtered operation).count_eq, List.count_append,
    count_ownCounters_auditEvents, Nat.zero_add, List.count_eq_countP, List.countP_map, named]

/-- An operation adds to the journal the records that it calls for, as far as the filter admits
them. -/
theorem exists_journal_perform {guard : Guard} {filter : AuditFilter}
    (filtered : guard.sink = .filtered filter) (operation : Operation) :
    ∃ written : List AuditRecord, written.Perm (guard.posted filter operation) ∧
      (guard.perform operation).1.journal = guard.journal ++ written := by
  refine ⟨_, records_entries_perm filtered operation, ?_⟩
  rw [perform_fst]
  exact journal_noteAll guard (guard.entries operation)

end Guard

end NodeGate
