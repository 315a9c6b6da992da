/-!
# The shutdown signal

One sender and any number of named receivers. Only the latest signal is kept: a receiver that
missed some is told how many, once, and then receives the one that is kept. Signals sent before a
receiver subscribed do not reach it.
-/

namespace NodeGate

/-- What a receiver finds. -/
inductive Reception where
  | signal
  | empty
  /-- Signals that can no longer be received. -/
  | lagged (missed : Nat)
  deriving DecidableEq, Repr

/-- The signals sent, and for each receiver how many of them are behind it. -/
structure Shutdown where
  sent : Nat := 0
  receivers : List (String × Nat) := []
  deriving DecidableEq, Repr

namespace Shutdown

/-- The receivers other than one. -/
def others (shutdown : Shutdown) (name : String) : List (String × Nat) :=
  shutdown.receivers.filter (·.1 ≠ name)

/-- How many signals are behind a receiver, if it is there. -/
def position? (shutdown : Shutdown) (name : String) : Option Nat :=
  (shutdown.receivers.find? (·.1 = name)).map (·.2)

/-- A receiver subscribes; an earlier one of its name is given up. -/
def subscribe (shutdown : Shutdown) (name : String) : Shutdown :=
  { shutdown with receivers := (name, shutdown.sent) :: shutdown.others name }

/-- A receiver is given up. -/
def drop (shutdown : Shutdown) (name : String) : Shutdown :=
  { shutdown with receivers := shutdown.others name }

/-- The signal is sent. -/
def trigger (shutdown : Shutdown) : Shutdown :=
  { shutdown with sent := shutdown.sent + 1 }

/-- A receiver looks for the signal; nothing is found where there is no such receiver. -/
def receive (shutdown : Shutdown) (name : String) : Option Reception × Shutdown :=
  match shutdown.position? name with
  | none => (none, shutdown)
  | some position =>
    let moveTo (place : Nat) : Shutdown :=
      { shutdown with receivers := (name, place) :: shutdown.others name }
    if position = shutdown.sent then (some .empty, shutdown)
    else if position + 1 = shutdown.sent then (some .signal, moveTo shutdown.sent)
    else (some (.lagged (shutdown.sent - 1 - position)), moveTo (shutdown.sent - 1))

/-- How many receivers there are. -/
def receiverCount (shutdown : Shutdown) : Nat :=
  shutdown.receivers.length

end Shutdown

end NodeGate
