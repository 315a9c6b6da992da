import NodeGate.Session.Pipeline

/-!
# Sessions

A session runs many requests through one guarded node, some of them side by side. A request that
cannot go on is kept under an identifier; after every step all of them are polled in rising order
of identifier. Every identifier has a gate, which is shut when its request starts and can be
opened once.
-/

namespace NodeGate

open Session

/-- A guarded node with the requests that run on it. -/
structure Session (Content : Type) where
  node : Node
  channels : List Channel := []
  openGates : List String := []
  running : NameMap (Pipeline Content) := NameMap.empty

namespace Session

variable {Content : Type}

/-- The guard with its channels. -/
def floor (session : Session Content) : Floor :=
  ⟨session.node.guard, session.channels⟩

/-- The session with guard and channels as they are after something ran. -/
def withFloor (session : Session Content) (floor : Floor) : Session Content :=
  { session with node := { session.node with guard := floor.guard }, channels := floor.channels }

/-- The session with another guard. -/
def withGuard (session : Session Content) (guard : Guard) : Session Content :=
  { session with node := { session.node with guard } }

/-- A request that is given up gives back its places. -/
def drop (session : Session Content) (pipeline : Pipeline Content) : Session Content :=
  session.withFloor (session.floor.leaveTimes pipeline.places)

/-- Run a request at once; where it cannot go on to its end it is given up. -/
def intercept (session : Session Content) (request : Request) (place : Place)
    (handler : Handler Content) : Session Content × Option (Outcome Content) :=
  let (floor, channel) := session.floor.resolve place
  let (floor, progress) := launch (runHandler false handler) floor request channel
  let session := session.withFloor floor
  match progress with
  | .ended outcome => (session, some outcome)
  | .suspended pipeline => (session.drop pipeline, none)

/-- A request is no longer kept; whether it was. -/
def cancel (session : Session Content) (id : String) : Session Content × Bool :=
  match session.running.get? id with
  | some pipeline => ({ session.drop pipeline with running := session.running.erase id }, true)
  | none => (session, false)

/-- Start a request under an identifier, whose gate is shut. Where the request cannot go on to its
end it is kept and takes the place of an earlier one. -/
def start (session : Session Content) (id : String) (request : Request) (place : Place)
    (handler : Handler Content) : Session Content × Option (Outcome Content) :=
  let session := { session with openGates := session.openGates.filter (· ≠ id) }
  let (floor, channel) := session.floor.resolve place
  let (floor, progress) := launch (runHandler false handler) floor request channel
  let session := session.withFloor floor
  match progress with
  | .ended outcome => (session, some outcome)
  | .suspended pipeline =>
    let session := (session.cancel id).1
    ({ session with running := session.running.insert id pipeline }, none)

/-- Open the gate of an identifier; whether a request is kept under it. -/
def release (session : Session Content) (id : String) : Session Content × Bool :=
  ({ session with openGates := id :: session.openGates }, (session.running.get? id).isSome)

/-- Close a channel; whether it was closed before and is closed now. -/
def closeChannel (session : Session Content) (index : Nat) : Session Content × Bool × Bool :=
  let closed := session.floor.close index
  (session.withFloor closed, session.floor.isClosed index, closed.isClosed index)

/-- Poll one request that is kept, and note how it ended if it did. -/
def pollOne (state : Session Content × List (String × Outcome Content))
    (entry : String × Pipeline Content) : Session Content × List (String × Outcome Content) :=
  let (session, ended) := state
  let (id, pipeline) := entry
  let (floor, progress) := poll (session.openGates.contains id) pipeline session.floor
  let session := session.withFloor floor
  match progress with
  | .ended outcome =>
    ({ session with running := session.running.erase id }, ended ++ [(id, outcome)])
  | .suspended pipeline =>
    ({ session with running := session.running.insert id pipeline }, ended)

/-- Poll every request that is kept, in rising order of identifier. -/
def pollAll (session : Session Content) : Session Content × List (String × Outcome Content) :=
  session.running.entries.foldl pollOne (session, [])

/-- The session ends: every request that is kept is given up. -/
def finish (session : Session Content) : Session Content :=
  session.running.names.foldl (fun session id => (session.cancel id).1) session

end Session

end NodeGate
