import NodeGate.Proofs.Books.Failures
import NodeGate.Proofs.Reload.InForce

/-!
# The books of a node balance

A session is a run of a node's events, each with the settings in force at it and what came of it.
After every session the counters are numbers of its events, and there are as many audit records
and audit events of a category as events that failed in that category while settings asked for it
(`run_balanced`). Each number is kept by one event, as the entries of the event have it.
-/

namespace NodeGate

open Admission

namespace AuditCategory

/-- A text names a category exactly when it has the letters of the category's name. -/
theorem ofName?_eq_some_iff {name : String} {category : AuditCategory} :
    ofName? name = some category ↔ sameLetters category.name name = true := by
  constructor
  · intro named
    unfold ofName? at named
    have found := List.find?_some named
    exact found
  · intro same
    have letters : name.toList.map Char.toLower = category.name.toList.map Char.toLower :=
      (of_decide_eq_true same).symm
    simp only [ofName?, sameLetters, letters]
    cases category <;> decide

end AuditCategory

/-- Settings ask for records of a category: audit is on, and no name that is switched off names
the category, in any letter case. -/
def AuditSettings.asksFor (settings : AuditSettings) (category : AuditCategory) : Bool :=
  settings.enabled &&
    settings.disabledCategories.all fun name => !AuditCategory.sameLetters category.name name

/-- The filter of settings admits what the settings ask for. -/
theorem AuditFilter.admits_ofSettings (settings : AuditSettings) (category : AuditCategory) :
    (AuditFilter.ofSettings settings).admits category = settings.asksFor category := by
  have disabled : (settings.disabledCategories.filterMap AuditCategory.ofName?).contains category =
      settings.disabledCategories.any fun name =>
        AuditCategory.sameLetters category.name name := by
    rw [Bool.eq_iff_iff, List.contains_iff_mem, List.mem_filterMap, List.any_eq_true]
    simp only [AuditCategory.ofName?_eq_some_iff]
  simp only [admits, ofSettings, AuditSettings.asksFor, disabled, List.all_eq_not_any_not,
    Bool.not_not]

namespace Counter

/-- Admissions, whatever came of them. -/
def isRequest : Counter → Bool
  | .requests _ _ => true
  | _ => false

/-- Admissions that were rejected. -/
def isRejectedRequest : Counter → Bool
  | .requests _ false => true
  | _ => false

/-- Rejections, whatever their reason. -/
def isRejection : Counter → Bool
  | .rejections _ => true
  | _ => false

/-- Decisions on requests for indices, whatever their kind. -/
def isDecision : Counter → Bool
  | .decisions _ => true
  | _ => false

end Counter

namespace Guard

/-- An admission. -/
def Operation.isAdmission : Operation → Bool
  | .receive _ _ => true
  | _ => false

/-- A decision on a request for indices, enforced or not. -/
def Operation.isDecision : Operation → Bool
  | .evaluate _ _ _ _ | .enforce _ _ _ _ => true
  | _ => false

/-- Why an operation, an admission, was rejected, if it was. -/
def Response.rejection? : Response → Option GuardError
  | .verdict (.rejected refusal) => some refusal.error
  | _ => none

end Guard

namespace Node

/-- Why an event, an admission, was rejected, if it was. -/
def Outcome.rejection? : Outcome → Option GuardError
  | .response answer => answer.rejection?
  | .ignored _ => none

/-- An event failed. A reload never does. -/
def Outcome.isFailure : Outcome → Bool
  | .response answer => answer.isFailure
  | .ignored _ => false

/-- An event failed in a category. -/
def Outcome.failsIn : Outcome → AuditCategory → Bool
  | .response answer, category => answer.failsIn category
  | .ignored _, _ => false

/-- An event of a session as it was taken. -/
structure Taken where
  /-- The settings that were in force at the event. -/
  inForce : Settings
  event : Event
  outcome : Outcome

/-- The events after some earlier ones, as a node takes them. -/
def takenFrom (complaints : HeaderValue.Complaints) (started : Settings) (before : List Event) :
    List Event → List Taken
  | [] => []
  | event :: rest =>
    ⟨inForce started before, event, (((start complaints started).run before).step event).2⟩ ::
      takenFrom complaints started (before ++ [event]) rest

/-- The events of a session as they were taken. -/
def taken (complaints : HeaderValue.Complaints) (started : Settings) (events : List Event) :
    List Taken :=
  takenFrom complaints started [] events

/-- A session that goes on by one event. -/
theorem takenFrom_append_singleton (complaints : HeaderValue.Complaints) (started : Settings)
    (before events : List Event) (event : Event) :
    takenFrom complaints started before (events ++ [event]) =
      takenFrom complaints started before events ++
        [⟨inForce started (before ++ events), event,
          (((start complaints started).run (before ++ events)).step event).2⟩] := by
  induction events generalizing before with
  | nil => simp [takenFrom]
  | cons first rest inductionHypothesis =>
      have later := inductionHypothesis (before ++ [first])
      simp only [List.append_assoc, List.singleton_append] at later
      rw [List.cons_append, takenFrom, later]
      rfl

namespace Taken

/-- The event was an admission. -/
def isAdmission (taken : Taken) : Bool :=
  match taken.event with
  | .operation operation => operation.isAdmission
  | .reload _ => false

/-- The event was a decision on a request for indices. -/
def isDecision (taken : Taken) : Bool :=
  match taken.event with
  | .operation operation => operation.isDecision
  | .reload _ => false

end Taken

/-- The books of a guard are those of a session. -/
structure Balanced (guard : Guard) (session : List Taken) : Prop where
  /-- Every admission is counted once, under its channel and outcome. -/
  requests : guard.metrics.total Counter.isRequest = session.countP Taken.isAdmission
  /-- Rejected admissions are counted by channel as often as by reason. -/
  rejectedRequests :
    guard.metrics.total Counter.isRejectedRequest = guard.metrics.total Counter.isRejection
  /-- The rejections are the rejected admissions. -/
  rejections :
    guard.metrics.total Counter.isRejection =
      session.countP fun taken => taken.outcome.rejection?.isSome
  /-- Each is counted under the reason of its error. -/
  reasons : ∀ reason, guard.metrics.count (.rejections reason) =
    session.countP fun taken => taken.outcome.rejection?.map (·.reason) = some reason
  /-- Every decision on a request for indices is counted once, under its kind. -/
  decisions : guard.metrics.total Counter.isDecision = session.countP Taken.isDecision
  /-- There are as many records of a category as audit events of it. -/
  journal : ∀ category, guard.journal.countP (fun record => record.category = category) =
    guard.metrics.count (.auditEvents category)
  /-- There is one for each event that failed in the category while settings asked for it. -/
  auditEvents : ∀ category, guard.metrics.count (.auditEvents category) =
    session.countP fun taken =>
      taken.outcome.failsIn category && taken.inForce.audit.asksFor category

/-- What an event leaves in the journal of a node: one record of its failure, where the settings
ask for it. -/
structure LeavesItsRecord (settings : Settings) (node : Node) (event : Event) : Prop where
  /-- A failure is one in a single category. -/
  one : (node.step event).2.isFailure = true →
    ∃! category, (node.step event).2.failsIn category = true
  /-- It leaves one record, of this category, where the settings ask for it, and none elsewhere. -/
  failure : ∀ category, (node.step event).2.failsIn category = true →
    if settings.audit.asksFor category then
      ∃ record, record.category = category ∧
        (node.step event).1.guard.journal = node.guard.journal ++ [record]
    else (node.step event).1.guard.journal = node.guard.journal
  /-- Nothing else leaves a record. -/
  success : (node.step event).2.isFailure = false →
    (node.step event).1.guard.journal = node.guard.journal

end Node

namespace Guard

variable (guard : Guard) (operation : Operation)

/-- A rejected admission is counted once by its channel and once by its reason. -/
theorem countP_ownCounters_rejectedRequest :
    (guard.ownCounters operation).countP Counter.isRejectedRequest =
      (guard.ownCounters operation).countP Counter.isRejection := by
  cases operation with
  | receive request channel =>
      have each (verdict : Verdict) :
          (verdictCounters channel verdict).countP Counter.isRejectedRequest =
            (verdictCounters channel verdict).countP Counter.isRejection := by
        cases verdict <;> rfl
      exact each _
  | evaluate | enforce | createCursor | validateCursor | closeCursor => rfl

/-- A rejection is counted where an admission is rejected. -/
theorem countP_ownCounters_rejection :
    (guard.ownCounters operation).countP Counter.isRejection =
      if (guard.perform operation).2.rejection?.isSome then 1 else 0 := by
  cases operation with
  | receive request channel =>
      have each (verdict : Verdict) :
          (verdictCounters channel verdict).countP Counter.isRejection =
            if (Response.verdict verdict).rejection?.isSome then 1 else 0 := by
        cases verdict <;> rfl
      exact each _
  | validateCursor cursor context summary => rfl
  | evaluate | enforce | createCursor | closeCursor => rfl

/-- It is counted under the reason of its error. -/
theorem count_ownCounters_rejection (reason : String) :
    (guard.ownCounters operation).count (.rejections reason) =
      if (guard.perform operation).2.rejection?.map (·.reason) = some reason then 1 else 0 := by
  cases operation with
  | receive request channel =>
      have each (verdict : Verdict) :
          (verdictCounters channel verdict).count (.rejections reason) =
            if (Response.verdict verdict).rejection?.map (·.reason) = some reason then 1
            else 0 := by
        cases verdict with
        | rejected refusal => simp [verdictCounters, Response.rejection?, List.count_cons]
        | dispatched | waiting => rfl
      exact each _
  | evaluate | enforce => simp [ownCounters, perform, Response.rejection?]
  | createCursor | validateCursor | closeCursor => rfl

/-- A decision is counted where one is made. -/
theorem countP_ownCounters_decision :
    (guard.ownCounters operation).countP Counter.isDecision =
      if operation.isDecision then 1 else 0 := by
  cases operation with
  | receive request channel =>
      have each (verdict : Verdict) :
          (verdictCounters channel verdict).countP Counter.isDecision = 0 := by
        cases verdict <;> rfl
      exact each _
  | evaluate | enforce | createCursor | validateCursor | closeCursor => rfl

/-- An admission is counted where there is one, unless the backend keeps it waiting. -/
theorem countP_ownCounters_request
    (answered : ∀ request channel context, judge guard.policy request channel ≠ .waiting context) :
    (guard.ownCounters operation).countP Counter.isRequest =
      if operation.isAdmission then 1 else 0 := by
  cases operation with
  | receive request channel =>
      rw [ownCounters]
      cases verdict : judge guard.policy request channel with
      | dispatched context => rfl
      | rejected refusal => rfl
      | waiting context => exact absurd verdict (answered request channel context)
  | evaluate | enforce | createCursor | validateCursor | closeCursor => rfl

end Guard

namespace Node

open Guard

/-- The backend of a node answers every question. -/
theorem judge_ne_waiting (complaints : HeaderValue.Complaints) (cluster : String)
    (transport : TransportSettings) (authentication : AuthenticationSettings) (request : Request)
    (channel : Channel) (context : SecurityContext) :
    judge (policy complaints cluster transport authentication) request channel ≠
      .waiting context := by
  unfold judge course
  split
  · nofun
  · nofun
  · rename_i principal _ _
    change settle _ _ ((PrincipalTable.ofSettings authentication).answer principal) ≠ _
    unfold PrincipalTable.answer
    split
    · rw [settle]
      cases request.remoteAddress <;> simp
    · rw [settle]
      cases isUnauthenticatedAction request.action <;> simp

variable {guard : Guard} {session : List Taken}

/-- An operation keeps the books balanced, where the filter is that of the settings in force and
the backend answers. -/
theorem Balanced.perform (balanced : Balanced guard session) {settings : Settings}
    (filtered : guard.sink = .filtered (AuditFilter.ofSettings settings.audit))
    (answered : ∀ request channel context, judge guard.policy request channel ≠ .waiting context)
    (operation : Operation) :
    Balanced (guard.perform operation).1
      (session ++ [⟨settings, .operation operation, .response (guard.perform operation).2⟩]) where
  requests := by
    rw [total_perform filtered _ fun _ => rfl, balanced.requests,
      countP_ownCounters_request _ _ answered, List.countP_append, List.countP_singleton]
    rfl
  rejectedRequests := by
    rw [total_perform filtered _ fun _ => rfl, total_perform filtered _ fun _ => rfl,
      balanced.rejectedRequests, countP_ownCounters_rejectedRequest]
  rejections := by
    rw [total_perform filtered _ fun _ => rfl, balanced.rejections,
      countP_ownCounters_rejection, List.countP_append, List.countP_singleton]
    rfl
  reasons reason := by
    have other : ∀ category, Counter.rejections reason ≠ .auditEvents category := nofun
    rw [count_perform filtered _ other, balanced.reasons, count_ownCounters_rejection,
      List.countP_append, List.countP_singleton]
    simp only [decide_eq_true_eq]
    rfl
  decisions := by
    rw [total_perform filtered _ fun _ => rfl, balanced.decisions,
      countP_ownCounters_decision, List.countP_append, List.countP_singleton]
    rfl
  journal category := by
    obtain ⟨written, permuted, journal⟩ := exists_journal_perform filtered operation
    rw [journal, List.countP_append, permuted.countP_eq, balanced.journal,
      count_auditEvents_perform filtered]
  auditEvents category := by
    rw [count_auditEvents_perform filtered, balanced.auditEvents, countP_posted,
      AuditFilter.admits_ofSettings, List.countP_append, List.countP_singleton]
    rfl

/-- A reload keeps the books balanced. -/
theorem Balanced.reload {node : Node} (balanced : Balanced node.guard session)
    (inForce settings : Settings) :
    Balanced (node.reload settings).1.guard
      (session ++ [⟨inForce, .reload settings, .ignored (node.reload settings).2⟩]) where
  requests := by
    rw [List.countP_append]
    exact balanced.requests
  rejectedRequests := balanced.rejectedRequests
  rejections := by
    rw [List.countP_append]
    exact balanced.rejections
  reasons reason := by
    rw [List.countP_append]
    exact balanced.reasons reason
  decisions := by
    rw [List.countP_append]
    exact balanced.decisions
  journal := balanced.journal
  auditEvents category := by
    rw [List.countP_append]
    exact balanced.auditEvents category

/-- An event leaves the record of its failure, where the filter is that of the settings. -/
theorem leavesItsRecord {node : Node} {settings : Settings}
    (filtered : node.guard.sink = .filtered (AuditFilter.ofSettings settings.audit))
    (event : Event) : LeavesItsRecord settings node event := by
  cases event with
  | reload other => exact ⟨nofun, nofun, fun _ => rfl⟩
  | operation operation =>
      have written : Written (AuditFilter.ofSettings settings.audit) node.guard.journal
          (node.step (.operation operation)).1.guard.journal (node.guard.perform operation).2 :=
        written_perform filtered operation
      cases written with
      | success passed outside unrecorded =>
          refine ⟨fun failed => ?_, fun category failed => ?_, fun _ => unrecorded⟩
          · cases passed.symm.trans failed
          · cases (outside category).symm.trans failed
      | @failure record failed within recorded =>
          rw [AuditFilter.admits_ofSettings] at recorded
          refine ⟨fun _ => ⟨record.category, ?_, fun other also => ?_⟩,
            fun category failsHere => ?_, fun passed => ?_⟩
          · exact (within _).trans (decide_eq_true rfl)
          · exact (of_decide_eq_true ((within other).symm.trans also)).symm
          · cases of_decide_eq_true ((within category).symm.trans failsHere)
            cases asked : settings.audit.asksFor record.category with
            | true =>
                rw [asked] at recorded
                exact ⟨record, rfl, recorded⟩
            | false =>
                rw [asked] at recorded
                exact recorded.trans (List.append_nil _)
          · cases passed.symm.trans failed

/-- The filter of a node is that of the settings in force. -/
theorem sink_run (complaints : HeaderValue.Complaints) (started : Settings)
    (events : List Event) :
    ((start complaints started).run events).guard.sink =
      .filtered (AuditFilter.ofSettings (inForce started events).audit) :=
  (run_sameRules complaints started events).sink

/-- After every session the books of a node balance, and each later event leaves one record of its
failure, if it is one and the settings in force ask for it. -/
theorem run_balanced (complaints : HeaderValue.Complaints) (started : Settings)
    (events : List Event) :
    let node := (start complaints started).run events
    Balanced node.guard (taken complaints started events) ∧
      ∀ event, LeavesItsRecord (inForce started events) node event := by
  intro node
  refine ⟨?_, fun event => leavesItsRecord (sink_run complaints started events) event⟩
  induction events using List.reverseRecOn with
  | nil => exact ⟨rfl, rfl, rfl, fun _ => rfl, rfl, fun _ => rfl, fun _ => rfl⟩
  | append_singleton events event inductionHypothesis =>
      have balanced : Balanced ((start complaints started).run events).guard
        (takenFrom complaints started [] events) := inductionHypothesis
      change Balanced ((start complaints started).run (events ++ [event])).guard
        (takenFrom complaints started [] (events ++ [event]))
      rw [run_append_singleton, takenFrom_append_singleton, List.nil_append]
      cases event with
      | operation operation =>
          refine balanced.perform (sink_run complaints started events)
            (fun request channel context => ?_) operation
          rw [(run_sameRules complaints started events).policy]
          exact judge_ne_waiting _ _ _ _ request channel context
      | reload settings => exact balanced.reload _ settings

/-- A caller without a principal and a stranger to a cursor are refused before and after a reload,
and a deletion is denied. Each of the two settings switches one category off, in other letters, so
that one of the two refusals is recorded each time. -/
theorem run_balanced_reloaded :
    let without (name : String) : Settings := { audit := { disabledCategories := [name] } }
    let anonymous : Event := .operation
      (.receive { action := "indices:data/read/search" } { type := some "netty" })
    let deletion : Event := .operation
      (.evaluate "indices:admin/delete" { targets := [".sg-config"] } (.ofList [".sg-config"]) {})
    let continuation : Event := .operation (.validateCursor "cursor"
      { action := "indices:data/read/scroll", actionClass := "SearchScrollRequest" } {})
    let started := without "ssl_Exception"
    let events := [anonymous, deletion, continuation, .reload (without "missing_privileges"),
      anonymous, continuation]
    let guard := ((start {} started).run events).guard
    guard.metrics.total Counter.isRequest = 2 ∧
      guard.metrics.total Counter.isRejectedRequest = 2 ∧
      guard.metrics.count (.rejections "missing_credential") = 2 ∧
      guard.metrics.total Counter.isDecision = 1 ∧
      guard.metrics.count (.auditEvents .sslException) = 1 ∧
      guard.metrics.count (.auditEvents .missingPrivileges) = 1 ∧
      guard.metrics.count (.auditEvents .protectedIndexAttempt) = 1 ∧
      guard.metrics.count (.auditEvents .badHeaders) = 0 ∧
      guard.journal.countP (fun record => record.category = .sslException) = 1 ∧
      (((start {} started).run events).step continuation).1.guard.journal = guard.journal := by
  intro without anonymous deletion continuation started events guard
  obtain ⟨balanced, leaves⟩ := run_balanced {} started events
  have written (category : AuditCategory) := balanced.auditEvents category
  have disabled : (inForce started events).audit.asksFor .missingPrivileges = false := by decide
  have refused : (((start {} started).run events).step continuation).2.failsIn
      .missingPrivileges = true := by decide
  have unwritten := (leaves continuation).failure .missingPrivileges refused
  rw [disabled, if_neg Bool.false_ne_true] at unwritten
  refine ⟨?_, ?_, ?_, ?_, ?_, ?_, ?_, ?_, ?_, unwritten⟩
  · exact balanced.requests.trans (by decide)
  · exact (balanced.rejectedRequests.trans balanced.rejections).trans (by decide)
  · exact (balanced.reasons "missing_credential").trans (by decide)
  · exact balanced.decisions.trans (by decide)
  · exact (written .sslException).trans (by decide)
  · exact (written .missingPrivileges).trans (by decide)
  · exact (written .protectedIndexAttempt).trans (by decide)
  · exact (written .badHeaders).trans (by decide)
  · exact (balanced.journal .sslException).trans ((written .sslException).trans (by decide))

end Node

end NodeGate
