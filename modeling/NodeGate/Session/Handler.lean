import NodeGate.Node

/-!
# Handlers

What happens to a request once it is admitted is the business of a handler. The handlers here are
small programs that show every way in which a handler meets the guard: it answers, fails or
crashes, closes the channel that it runs on, waits at a gate, hands its request on, or asks about
indices. An answer shows the request as the handler saw it.
-/

namespace NodeGate.Session

/-- The channel that a request is handed on over: one that exists, or a new one. -/
inductive Place where
  | existing (index : Nat)
  | fresh (channel : Channel)

/-- What is done with an admitted request. -/
inductive Handler (Content : Type) where
  | answer (content : Content)
  | fail (text : String)
  | crash (text : String)
  | closeThenAnswer (content : Content)
  /-- Close the channel and never answer. -/
  | closeThenWait
  /-- Wait until the gate is open. -/
  | gate (inner : Handler Content)
  /-- Hand a request on with this context in its headers, to a handler of its own. -/
  | redispatch (request : Request) (place : Place) (inner : Handler Content)
  /-- Ask whether a request for indices may go on. -/
  | checked (action : String) (request : IndicesRequest) (resolved : ResolvedIndices)

/-- The request as a handler saw it. -/
structure View where
  action : String
  context : SecurityContext
  /-- How many requests were under way at that moment. -/
  inFlight : Nat

/-- What a handler answers. -/
inductive Answer (Content : Type) where
  | plain (content : Content) (view : View)
  | checked (after : IndicesRequest) (view : View)
  /-- The request was handed on with these headers, and answered. -/
  | forwarded (sent : Headers) (inner : Answer Content) (view : View)
  /-- The request was handed on with these headers, and refused. -/
  | refused (sent : Headers) (error : GuardError) (view : View)

/-- How a request ends. -/
inductive Outcome (Content : Type) where
  | answered (answer : Answer Content)
  | failed (error : GuardError)
  | crashed (text : String)

/-- An admitted request on the channel that it runs on. -/
structure Frame where
  request : Request
  context : SecurityContext
  channel : Nat

/-- A request under way that cannot go on yet. Each layer holds one place among the requests under
way. -/
inductive Pipeline (Content : Type) where
  /-- The backend has not answered. -/
  | asking (request : Request) (channel : Nat) (context : SecurityContext)
  /-- The handler waits at the gate. -/
  | gated (frame : Frame) (handler : Handler Content)
  /-- The request was handed on and that one cannot go on yet. -/
  | nested (frame : Frame) (sent : Headers) (inner : Pipeline Content)

/-- How many places a pipeline holds. -/
def Pipeline.places {Content : Type} : Pipeline Content → Nat
  | .asking _ _ _ => 1
  | .gated _ _ => 1
  | .nested _ _ inner => inner.places + 1

/-- Where running a request leads. -/
inductive Progress (Content : Type) where
  | ended (outcome : Outcome Content)
  | suspended (pipeline : Pipeline Content)

end NodeGate.Session
