import NodeGate.Channel
import NodeGate.GuardError

/-!
# Metrics

Counters and gauges that have been touched since the start. A counter only grows, by one; a gauge
takes the value it is set to. `count_increment` and `value?_set` say what each change does to
every series.
-/

namespace NodeGate

/-- The kinds of decision on a request for indices. -/
inductive DecisionKind where
  | allow
  | deny
  | filter
  deriving DecidableEq, Repr

/-- The name of a kind of decision. -/
def DecisionKind.name : DecisionKind → String
  | .allow => "allow"
  | .deny => "deny"
  | .filter => "filter"

/-- What is counted. -/
inductive Counter where
  /-- Admissions by the kind of channel, where it is known, and by whether the request passed. -/
  | requests (channel : Option ChannelKind) (dispatched : Bool)
  | rejections (reason : String)
  | auditEvents (category : AuditCategory)
  | decisions (kind : DecisionKind)
  deriving DecidableEq, Repr

/-- What is measured. -/
inductive Gauge where
  | inFlight
  | openCursors
  deriving DecidableEq, Repr

/-- The name of a counter with its labels. -/
def Counter.name : Counter → String
  | .requests channel dispatched =>
    "guard_requests_total\x7bchannel=" ++ (channel.map (·.name)).getD "unknown" ++ ",outcome=" ++
      (if dispatched then "dispatched" else "rejected") ++ "\x7d"
  | .rejections reason => "guard_rejections_total\x7breason=" ++ reason ++ "\x7d"
  | .auditEvents category => "guard_audit_events_total\x7bcategory=" ++ category.name ++ "\x7d"
  | .decisions kind =>
    "guard_protected_index_decisions_total\x7bdecision=" ++ kind.name ++ "\x7d"

/-- The name of a gauge. -/
def Gauge.name : Gauge → String
  | .inFlight => "guard_inflight_requests"
  | .openCursors => "guard_open_cursors"

/-- The series that have been touched, with their values. -/
structure Metrics where
  counters : List (Counter × Nat) := []
  gauges : List (Gauge × Nat) := []
  deriving DecidableEq, Repr

namespace Metrics

/-- The value of a key in a list of pairs. -/
def find {Key : Type} [DecidableEq Key] (key : Key) : List (Key × Nat) → Option Nat
  | [] => none
  | (other, value) :: rest => if other = key then some value else find key rest

/-- The pairs with the value of one key changed. -/
def update {Key : Type} [DecidableEq Key] (key : Key) (change : Nat → Nat) :
    List (Key × Nat) → List (Key × Nat)
  | [] => [(key, change 0)]
  | (other, value) :: rest =>
    if other = key then (other, change value) :: rest
    else (other, value) :: update key change rest

/-- What a list of pairs holds after one key is changed. -/
theorem find_update {Key : Type} [DecidableEq Key] (key other : Key) (change : Nat → Nat)
    (pairs : List (Key × Nat)) :
    find other (update key change pairs) =
      if other = key then some (change ((find key pairs).getD 0)) else find other pairs := by
  induction pairs with
  | nil =>
    by_cases same : other = key
    · simp [update, find, same]
    · simp [update, find, same, Ne.symm same]
  | cons pair rest inductionHypothesis =>
    obtain ⟨name, value⟩ := pair
    by_cases here : name = key
    · subst here
      by_cases same : other = name
      · subst same
        simp [update, find]
      · simp [update, find, same, Ne.symm same]
    · by_cases same : name = other
      · subst same
        simp [update, find, here]
      · simp [update, find, here, same, inductionHypothesis]

/-- The metrics with a counter one higher. -/
def increment (metrics : Metrics) (counter : Counter) : Metrics :=
  { metrics with counters := update counter (· + 1) metrics.counters }

/-- The metrics with a gauge set. -/
def set (metrics : Metrics) (gauge : Gauge) (value : Nat) : Metrics :=
  { metrics with gauges := update gauge (fun _ => value) metrics.gauges }

/-- The count of a counter, which is zero until it is touched. -/
def count (metrics : Metrics) (counter : Counter) : Nat :=
  (find counter metrics.counters).getD 0

/-- The value of a gauge once it is set. -/
def value? (metrics : Metrics) (gauge : Gauge) : Option Nat :=
  find gauge metrics.gauges

/-- The sum of the counters of a kind. -/
def total (metrics : Metrics) (select : Counter → Bool) : Nat :=
  (metrics.counters.filter fun pair => select pair.1).foldr (fun pair sum => pair.2 + sum) 0

/-- Every touched series by name. -/
def toList (metrics : Metrics) : List (String × Nat) :=
  (metrics.counters.map fun pair => (pair.1.name, pair.2)) ++
    metrics.gauges.map fun pair => (pair.1.name, pair.2)

/-- Counting changes one counter alone. -/
theorem count_increment (metrics : Metrics) (counter other : Counter) :
    (metrics.increment counter).count other =
      metrics.count other + if other = counter then 1 else 0 := by
  simp only [count, increment, find_update]
  by_cases same : other = counter
  · subst same
    simp
  · simp [same]

/-- Setting a gauge changes that gauge alone. -/
theorem value?_set (metrics : Metrics) (gauge other : Gauge) (value : Nat) :
    (metrics.set gauge value).value? other =
      if other = gauge then some value else metrics.value? other := by
  simp only [value?, set, find_update]

end Metrics

end NodeGate
