import NodeGate.Proofs.Reload.InForce

/-!
# A reloaded node refines a fresh one

Two nodes that go by the same rules and have the same cursors answer every later event alike and
make the same entries in their books, whatever the books held before (`Alike.step`). A node
that was reloaded is such a pair with one that was started with the settings in force, so no
earlier reload can be told from the outside (`run_refines_start`).
-/

namespace NodeGate

namespace Guard

/-- Two guards decide alike: only their books may differ. -/
structure Alike (left right : Guard) : Prop extends SameRules left right where
  cursors : left.cursors = right.cursors

/-- Two guards make the same entries in their books. -/
structure SameEntries (left left' right right' : Guard) : Prop where
  /-- The same records are written. -/
  journal : ∃ written,
    left'.journal = left.journal ++ written ∧ right'.journal = right.journal ++ written
  /-- The same questions are put to the backend. -/
  calls : ∃ asked, left'.calls = left.calls ++ asked ∧ right'.calls = right.calls ++ asked
  /-- Every counter grows by the same. -/
  counts : ∀ counter, ∃ more,
    left'.metrics.count counter = left.metrics.count counter + more ∧
      right'.metrics.count counter = right.metrics.count counter + more
  /-- Every gauge is set to the same value, or left alone. -/
  gauges : ∀ gauge,
    left'.metrics.value? gauge = right'.metrics.value? gauge ∨
      left'.metrics.value? gauge = left.metrics.value? gauge ∧
        right'.metrics.value? gauge = right.metrics.value? gauge

namespace SameEntries

/-- No entries are the same entries. -/
theorem refl (left right : Guard) : SameEntries left left right right where
  journal := ⟨[], by simp⟩
  calls := ⟨[], by simp⟩
  counts _ := ⟨0, rfl, rfl⟩
  gauges _ := .inr ⟨rfl, rfl⟩

/-- The same entries and then the same entries are the same entries. -/
theorem trans {left left' left'' right right' right'' : Guard}
    (earlier : SameEntries left left' right right')
    (later : SameEntries left' left'' right' right'') : SameEntries left left'' right right'' where
  journal := by
    obtain ⟨written, leftWritten, rightWritten⟩ := earlier.journal
    obtain ⟨more, leftMore, rightMore⟩ := later.journal
    refine ⟨written ++ more, ?_, ?_⟩
    · rw [leftMore, leftWritten, List.append_assoc]
    · rw [rightMore, rightWritten, List.append_assoc]
  calls := by
    obtain ⟨asked, leftAsked, rightAsked⟩ := earlier.calls
    obtain ⟨more, leftMore, rightMore⟩ := later.calls
    refine ⟨asked ++ more, ?_, ?_⟩
    · rw [leftMore, leftAsked, List.append_assoc]
    · rw [rightMore, rightAsked, List.append_assoc]
  counts counter := by
    obtain ⟨first, leftFirst, rightFirst⟩ := earlier.counts counter
    obtain ⟨second, leftSecond, rightSecond⟩ := later.counts counter
    refine ⟨first + second, ?_, ?_⟩
    · rw [leftSecond, leftFirst, Nat.add_assoc]
    · rw [rightSecond, rightFirst, Nat.add_assoc]
  gauges gauge := by
    rcases later.gauges gauge with set | ⟨leftKept, rightKept⟩
    · exact .inl set
    · rcases earlier.gauges gauge with set | ⟨leftOlder, rightOlder⟩
      · exact .inl (by rw [leftKept, rightKept, set])
      · exact .inr ⟨leftKept.trans leftOlder, rightKept.trans rightOlder⟩

end SameEntries

/-- One entry made in the books of two guards is the same entry. -/
theorem sameEntries_note (left right : Guard) (entry : Entry) :
    SameEntries left (left.note entry) right (right.note entry) := by
  have none : SameEntries left left right right := .refl left right
  cases entry with
  | counted counter =>
      exact { none with
        counts := fun other => ⟨if other = counter then 1 else 0,
          Metrics.count_increment left.metrics counter other,
          Metrics.count_increment right.metrics counter other⟩ }
  | shown gauge value =>
      have gauges : ∀ other,
          (left.metrics.set gauge value).value? other =
              (right.metrics.set gauge value).value? other ∨
            (left.metrics.set gauge value).value? other = left.metrics.value? other ∧
              (right.metrics.set gauge value).value? other = right.metrics.value? other := by
        intro other
        rw [Metrics.value?_set, Metrics.value?_set]
        by_cases shown : other = gauge
        · rw [if_pos shown, if_pos shown]
          exact .inl rfl
        · rw [if_neg shown, if_neg shown]
          exact .inr ⟨rfl, rfl⟩
      exact { none with gauges }
  | written record => exact { none with journal := ⟨[record], rfl, rfl⟩ }
  | asked call => exact { none with calls := ⟨[call], rfl, rfl⟩ }

/-- Entries made in the books of two guards are the same entries. -/
theorem sameEntries_noteAll (left right : Guard) (entries : List Entry) :
    SameEntries left (left.noteAll entries) right (right.noteAll entries) := by
  induction entries generalizing left right with
  | nil => exact .refl left right
  | cons entry rest inductionHypothesis =>
      exact (sameEntries_note left right entry).trans
        (inductionHypothesis (left.note entry) (right.note entry))

/-- Guards that decide alike make the same entries for an operation. -/
theorem Alike.entries_eq {left right : Guard} (alike : Alike left right)
    (operation : Operation) : left.entries operation = right.entries operation := by
  cases operation <;>
    simp only [entries, alike.policy, alike.sink, alike.protection, alike.cursors]

/-- Guards that decide alike answer an operation alike. -/
theorem Alike.perform_snd {left right : Guard} (alike : Alike left right)
    (operation : Operation) : (left.perform operation).2 = (right.perform operation).2 := by
  cases operation with
  | receive request channel =>
      exact congrArg (fun policy => Response.verdict (Admission.judge policy request channel))
        alike.policy
  | evaluate action request resolved summary =>
      simp only [perform, evaluate, alike.protection]
  | enforce action request resolved summary =>
      have decided : (left.evaluate action request resolved summary).2 =
          (right.evaluate action request resolved summary).2 := by
        simp only [evaluate, alike.protection]
      have protection (guard : Guard) :
          (guard.evaluate action request resolved summary).1.protection = guard.protection := by
        rw [evaluate_fst]
        exact (noteAll_rest guard _).1.protection
      simp only [perform, enforce, decided, protection, alike.protection]
      cases (right.evaluate action request resolved summary).2.1 <;> rfl
  | createCursor cursor context => rfl
  | validateCursor cursor context summary =>
      simp only [perform, validateCursor, alike.cursors]
      cases right.cursors.validate cursor context <;> rfl
  | closeCursor cursor =>
      exact congrArg (fun ledger => Response.closed (ledger.owner? cursor)) alike.cursors

/-- Guards that decide alike make the same entries for an operation and go on deciding alike. -/
theorem Alike.perform_fst {left right : Guard} (alike : Alike left right)
    (operation : Operation) :
    SameEntries left (left.perform operation).1 right (right.perform operation).1 ∧
      Alike (left.perform operation).1 (right.perform operation).1 := by
  have entries : SameEntries left (left.perform operation).1 right
      (right.perform operation).1 := by
    have same := sameEntries_noteAll left right (right.entries operation)
    rw [Guard.perform_fst, Guard.perform_fst, alike.entries_eq]
    exact ⟨same.journal, same.calls, same.counts, same.gauges⟩
  have leftRules := perform_sameRules left operation
  have rightRules := perform_sameRules right operation
  have after : Alike (left.perform operation).1 (right.perform operation).1 :=
    { policy := by rw [leftRules.policy, rightRules.policy, alike.policy]
      sink := by rw [leftRules.sink, rightRules.sink, alike.sink]
      protection := by rw [leftRules.protection, rightRules.protection, alike.protection]
      cursors := by rw [perform_cursors, perform_cursors, alike.cursors] }
  exact ⟨entries, after⟩

end Guard

namespace Node

/-- Two nodes decide alike and measure reloads against the same static settings. -/
structure Alike (left right : Node) : Prop where
  guard : left.guard.Alike right.guard
  cluster : left.started.cluster = right.started.cluster
  protectedIndex : left.started.protectedIndex = right.started.protectedIndex
  observability : left.started.observability = right.started.observability

/-- Nodes that decide alike report the same changes. -/
theorem Alike.ignoredChanges_eq {left right : Node} (alike : Alike left right)
    (settings : Settings) :
    left.started.ignoredChanges settings = right.started.ignoredChanges settings := by
  simp only [Settings.ignoredChanges, alike.cluster, alike.protectedIndex, alike.observability]

/-- Two nodes take one event in the same way. -/
structure SameStep (left right : Node) (event : Event) : Prop where
  outcome : (left.step event).2 = (right.step event).2
  entries : Guard.SameEntries left.guard (left.step event).1.guard
    right.guard (right.step event).1.guard
  cursors : (left.step event).1.guard.cursors = (right.step event).1.guard.cursors
  /-- Outbound headers name the same cluster. -/
  clusterName : left.guard.clusterName = right.guard.clusterName

/-- Nodes that decide alike take an event in the same way and go on deciding alike. -/
theorem Alike.step {left right : Node} (alike : Alike left right) (event : Event) :
    SameStep left right event ∧ Alike (left.step event).1 (right.step event).1 := by
  have clusterName : left.guard.clusterName = right.guard.clusterName :=
    congrArg Admission.Policy.clusterName alike.guard.policy
  cases event with
  | operation operation =>
      obtain ⟨entries, after⟩ := alike.guard.perform_fst operation
      have step : SameStep left right (.operation operation) :=
        { outcome := congrArg Outcome.response (alike.guard.perform_snd operation)
          entries := entries
          cursors := after.cursors
          clusterName := clusterName }
      exact ⟨step, after, alike.cluster, alike.protectedIndex, alike.observability⟩
  | reload settings =>
      have step : SameStep left right (.reload settings) :=
        { outcome := congrArg Outcome.ignored (alike.ignoredChanges_eq settings)
          entries := by
            have none := Guard.SameEntries.refl left.guard right.guard
            exact ⟨none.journal, none.calls, none.counts, none.gauges⟩
          cursors := alike.guard.cursors
          clusterName := clusterName }
      have guard : ((left.step (.reload settings)).1.guard).Alike
          (right.step (.reload settings)).1.guard :=
        { policy := congrArg
            (fun current : Admission.Policy =>
              policy current.complaints current.clusterName settings.transport
                settings.authentication)
            alike.guard.policy
          sink := rfl
          protection := alike.guard.protection
          cursors := alike.guard.cursors }
      exact ⟨step, guard, alike.cluster, alike.protectedIndex, alike.observability⟩

/-- Nodes that decide alike still do after the same events. -/
theorem Alike.run {left right : Node} (alike : Alike left right) (events : List Event) :
    Alike (left.run events) (right.run events) := by
  induction events using List.reverseRecOn with
  | nil => exact alike
  | append_singleton events event inductionHypothesis =>
      rw [run_append_singleton, run_append_singleton]
      exact (Alike.step inductionHypothesis event).2

/-- The node with other cursors. -/
def withCursors (node : Node) (cursors : CursorLedger) : Node :=
  { node with guard := { node.guard with cursors } }

/-- A node that went through events decides like one that was started with the settings in force
and holds its cursors. -/
theorem alike_start (complaints : HeaderValue.Complaints) (started : Settings)
    (events : List Event) :
    Alike ((start complaints started).run events)
      ((start complaints (inForce started events)).withCursors
        ((start complaints started).run events).guard.cursors) := by
  have rules := run_sameRules complaints started events
  have kept := started_run (start complaints started) events
  have static : (inForce started events).cluster = started.cluster ∧
      (inForce started events).protectedIndex = started.protectedIndex ∧
        (inForce started events).observability = started.observability := by
    unfold inForce
    split <;> exact ⟨rfl, rfl, rfl⟩
  refine ⟨⟨⟨rules.policy, rules.sink, rules.protection⟩, rfl⟩, ?_, ?_, ?_⟩
  · rw [kept]
    exact static.1.symm
  · rw [kept]
    exact static.2.1.symm
  · rw [kept]
    exact static.2.2.symm

/-- A node that was started and went through any events, reloads among them, takes every later
event like a node that is started with the settings in force and holds its cursors. A reload
touches neither the cursors nor the requests under way, and reports in what its settings differ
from those of the start. -/
theorem run_refines_start (complaints : HeaderValue.Complaints) (started : Settings)
    (before : List Event) :
    let reloaded := (start complaints started).run before
    let fresh := (start complaints (inForce started before)).withCursors reloaded.guard.cursors
    (∀ later event, SameStep (reloaded.run later) (fresh.run later) event) ∧
      ∀ settings,
        (reloaded.reload settings).1.guard.cursors = reloaded.guard.cursors ∧
          (reloaded.reload settings).1.guard.toInFlight = reloaded.guard.toInFlight ∧
          ((reloaded.reload settings).2 = [] ↔
            started.cluster = settings.cluster ∧
              started.protectedIndex = settings.protectedIndex ∧
              started.observability = settings.observability) ∧
          (reloaded.reload settings).2.Nodup ∧
          ∀ name, name ∈ (reloaded.reload settings).2 ↔
            Settings.StaticChange started settings name := by
  intro reloaded fresh
  refine ⟨fun later event => ?_, fun settings => ?_⟩
  · exact ((alike_start complaints started before).run later |>.step event).1
  · have reported : (reloaded.reload settings).2 = started.ignoredChanges settings := by
      change reloaded.started.ignoredChanges settings = _
      rw [started_run]
      rfl
    rw [reported]
    exact ⟨rfl, rfl, Settings.ignoredChanges_eq_nil_iff started settings,
      Settings.nodup_ignoredChanges started settings,
      Settings.mem_ignoredChanges_iff started settings⟩

end Node

end NodeGate
