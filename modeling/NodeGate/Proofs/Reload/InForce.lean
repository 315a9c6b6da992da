import Mathlib.Data.List.Induction
import NodeGate.Node
import NodeGate.Proofs.Guard

/-!
# The settings in force

A node goes by the settings of its start in what is read once, and by those of the last reload in
the rest (`run_sameRules`). Earlier reloads leave no trace in its rules. What a reload reports is
measured against the settings of the start (`mem_ignoredChanges_iff`).
-/

namespace NodeGate

namespace Settings

/-- What is read once stays, and the rest is taken from the latest settings. -/
def withLatest (started latest : Settings) : Settings where
  cluster := started.cluster
  protectedIndex := started.protectedIndex
  observability := started.observability
  transport := latest.transport
  authentication := latest.authentication
  audit := latest.audit

/-- The settings that are read once, by name, in which two versions differ. -/
inductive StaticChange (started current : Settings) : String → Prop where
  | cluster (differs : started.cluster.name ≠ current.cluster.name) :
      StaticChange started current "cluster.name"
  | indexName (differs : started.protectedIndex.name ≠ current.protectedIndex.name) :
      StaticChange started current "protected_index.name"
  | filterMode (differs : started.protectedIndex.filterMode ≠ current.protectedIndex.filterMode) :
      StaticChange started current "protected_index.filter_mode"
  | restoreEnabled
      (differs : started.protectedIndex.restoreEnabled ≠ current.protectedIndex.restoreEnabled) :
      StaticChange started current "protected_index.restore_enabled"
  | observability (differs : started.observability ≠ current.observability) :
      StaticChange started current "observability"

/-- The names that are reported are those of the static changes. -/
theorem mem_ignoredChanges_iff (started current : Settings) (name : String) :
    name ∈ started.ignoredChanges current ↔ StaticChange started current name := by
  constructor
  · intro member
    simp only [ignoredChanges, List.mem_append, List.mem_ite_nil_left, List.mem_singleton] at member
    rcases member with (((⟨differs, rfl⟩ | ⟨differs, rfl⟩) | ⟨differs, rfl⟩) | ⟨differs, rfl⟩) |
      ⟨differs, rfl⟩
    · exact .cluster differs
    · exact .indexName differs
    · exact .filterMode differs
    · exact .restoreEnabled differs
    · exact .observability differs
  · intro change
    cases change with
    | cluster differs => simp [ignoredChanges, differs]
    | indexName differs => simp [ignoredChanges, differs]
    | filterMode differs => simp [ignoredChanges, differs]
    | restoreEnabled differs => simp [ignoredChanges, differs]
    | observability differs => simp [ignoredChanges, differs]

/-- Each static change is reported once. -/
theorem nodup_ignoredChanges (started current : Settings) :
    (started.ignoredChanges current).Nodup := by
  have listed : (started.ignoredChanges current).Sublist
      (["cluster.name"] ++ ["protected_index.name"] ++ ["protected_index.filter_mode"] ++
        ["protected_index.restore_enabled"] ++ ["observability"]) := by
    have part (same : Prop) [Decidable same] (name : String) :
        (if same then [] else [name]).Sublist [name] := by
      split
      · exact List.nil_sublist [name]
      · exact List.Sublist.refl [name]
    exact ((((part _ _).append (part _ _)).append (part _ _)).append (part _ _)).append (part _ _)
  exact List.Nodup.sublist listed (by decide)

/-- Nothing is reported exactly when the static sections agree. -/
theorem ignoredChanges_eq_nil_iff (started current : Settings) :
    started.ignoredChanges current = [] ↔
      started.cluster = current.cluster ∧ started.protectedIndex = current.protectedIndex ∧
        started.observability = current.observability := by
  obtain ⟨⟨_⟩, _, ⟨_, _, _⟩, _, _, _⟩ := started
  obtain ⟨⟨_⟩, _, ⟨_, _, _⟩, _, _, _⟩ := current
  simp [ignoredChanges, and_assoc]

end Settings

namespace Node

/-- The settings that an event brings. -/
def Event.settings? : Event → Option Settings
  | .reload settings => some settings
  | .operation _ => none

/-- The settings that are in force after events: those of the last reload, except for what is
read once. -/
def inForce (started : Settings) (events : List Event) : Settings :=
  match (events.filterMap Event.settings?).getLast? with
  | some latest => started.withLatest latest
  | none => started

/-- An operation leaves the settings in force. -/
theorem inForce_operation (started : Settings) (events : List Event)
    (operation : Guard.Operation) :
    inForce started (events ++ [.operation operation]) = inForce started events := by
  simp [inForce, Event.settings?]

/-- A reload puts its settings in force, whatever was in force before. -/
theorem inForce_reload (started : Settings) (events : List Event) (settings : Settings) :
    inForce started (events ++ [.reload settings]) = started.withLatest settings := by
  simp [inForce, Event.settings?]

/-- No event changes the cluster that the settings in force name. -/
theorem inForce_cluster (started : Settings) (events : List Event) :
    (inForce started events).cluster = started.cluster := by
  unfold inForce
  split <;> rfl

/-- A run that goes on by one event. -/
theorem run_append_singleton (node : Node) (events : List Event) (event : Event) :
    node.run (events ++ [event]) = ((node.run events).step event).1 := by
  rw [run, List.foldl_append]
  rfl

/-- The settings of the start are kept. -/
theorem started_step (node : Node) (event : Event) :
    (node.step event).1.started = node.started := by
  cases event <;> rfl

/-- The settings of the start are kept through a run. -/
theorem started_run (node : Node) (events : List Event) :
    (node.run events).started = node.started := by
  induction events using List.reverseRecOn with
  | nil => rfl
  | append_singleton events event inductionHypothesis =>
      rw [run_append_singleton, started_step, inductionHypothesis]

/-- A node goes by the settings that are in force. -/
theorem run_sameRules (complaints : HeaderValue.Complaints) (started : Settings)
    (events : List Event) :
    ((start complaints started).run events).guard.SameRules
      (start complaints (inForce started events)).guard := by
  induction events using List.reverseRecOn with
  | nil => exact ⟨rfl, rfl, rfl⟩
  | append_singleton events event inductionHypothesis =>
      rw [run_append_singleton]
      cases event with
      | operation operation =>
          rw [inForce_operation]
          exact (Guard.perform_sameRules _ operation).trans inductionHypothesis
      | reload settings =>
          rw [inForce_reload]
          -- The cluster name is the one the node already had, which is that of the start.
          have cluster : ((start complaints started).run events).guard.clusterName =
              started.cluster.name := by
            rw [Guard.clusterName, inductionHypothesis.policy]
            exact congrArg ClusterSettings.name (inForce_cluster started events)
          have words : ((start complaints started).run events).guard.policy.complaints =
              complaints := by
            rw [inductionHypothesis.policy]
            rfl
          have protection : ((start complaints started).run events).guard.protection =
              ProtectedIndex.ofSettings started.protectedIndex := by
            rw [inductionHypothesis.protection]
            unfold inForce
            split <;> rfl
          exact
            { policy := congrArg₂
                (fun complaints name =>
                  policy complaints name settings.transport settings.authentication)
                words cluster
              sink := rfl
              protection := protection }

end Node

end NodeGate
