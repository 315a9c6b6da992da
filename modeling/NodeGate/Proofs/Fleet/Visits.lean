import NodeGate.Proofs.Reload.InForce

/-!
# Runs of several nodes

A fleet is a family of nodes that run side by side; an event happens at one of them. What a node
has become depends on its own events alone (`run_apply`). A visit is a request within such a run,
with all that happened before it.
-/

namespace NodeGate

/-- Nodes by name. -/
abbrev Fleet (Name : Type) := Name → Node

/-- A request within a run. -/
structure Visit (Name : Type) where
  /-- What happened before it, at any node. -/
  before : List (Name × Node.Event)
  /-- The node that is asked. -/
  node : Name
  request : Request
  channel : Channel

/-- The run to the end of a visit. -/
def Visit.upTo {Name : Type} (visit : Visit Name) : List (Name × Node.Event) :=
  visit.before ++ [(visit.node, .operation (.receive visit.request visit.channel))]

variable {Name : Type} [DecidableEq Name]

namespace Fleet

/-- The nodes as they are started. -/
def start (complaints : HeaderValue.Complaints) (settings : Name → Settings) : Fleet Name :=
  fun name => Node.start complaints (settings name)

/-- One event at one node. -/
def step (fleet : Fleet Name) (event : Name × Node.Event) : Fleet Name :=
  fun name => if event.1 = name then ((fleet name).step event.2).1 else fleet name

/-- The fleet after a run of events. -/
def run (fleet : Fleet Name) (events : List (Name × Node.Event)) : Fleet Name :=
  events.foldl step fleet

/-- The events that happen at one node. -/
def eventsAt (name : Name) (events : List (Name × Node.Event)) : List Node.Event :=
  events.filterMap fun event => if event.1 = name then some event.2 else none

/-- A node goes through the events that happen at it. -/
theorem run_apply (fleet : Fleet Name) (events : List (Name × Node.Event)) (name : Name) :
    fleet.run events name = (fleet name).run (eventsAt name events) := by
  induction events generalizing fleet with
  | nil => rfl
  | cons event rest inductionHypothesis =>
      have later : fleet.run (event :: rest) name =
          (fleet.step event name).run (eventsAt name rest) := inductionHypothesis _
      rw [later]
      by_cases here : event.1 = name
      · simp [step, eventsAt, here, Node.run]
      · simp [step, eventsAt, here]

end Fleet

namespace Visit

variable (complaints : HeaderValue.Complaints) (settings : Name → Settings) (visit : Visit Name)

/-- The node that is asked, as the visit finds it in a fleet that was started with settings. -/
def host : Node :=
  (Fleet.start complaints settings).run visit.before visit.node

/-- The settings that are in force at the node that is asked. -/
def inForce : Settings :=
  Node.inForce (settings visit.node) (Fleet.eventsAt visit.node visit.before)

/-- The node answers that the request is dispatched, with a context. -/
def Dispatched (context : SecurityContext) : Prop :=
  ((visit.host complaints settings).step (.operation (.receive visit.request visit.channel))).2 =
    .response (.verdict (.dispatched context))

/-- The node that is asked goes by the settings in force at it. -/
theorem host_sameRules :
    (visit.host complaints settings).guard.SameRules
      (Node.start complaints (visit.inForce settings)).guard := by
  rw [host, Fleet.run_apply]
  exact Node.run_sameRules complaints (settings visit.node) (Fleet.eventsAt visit.node visit.before)

variable {complaints settings visit}

/-- A request is dispatched as its node's policy judges. -/
theorem dispatched_iff {context : SecurityContext} :
    visit.Dispatched complaints settings context ↔
      Admission.judge (visit.host complaints settings).guard.policy visit.request visit.channel =
        .dispatched context := by
  constructor
  · intro dispatched
    injection dispatched with response
    injection response
  · intro judged
    exact congrArg (fun verdict => Node.Outcome.response (.verdict verdict)) judged

end Visit

end NodeGate
