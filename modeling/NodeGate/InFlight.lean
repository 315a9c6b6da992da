import NodeGate.Metrics
import NodeGate.NameMap

/-!
# Requests under way

The number of requests that have begun and not ended. Every change is shown by a gauge. A
`HolderRegister` lets named holders enter and leave; a holder that enters again takes its new
place before it gives up the old one, so the number never drops below that of the holders.
-/

namespace NodeGate

/-- The number of requests under way, with the metrics that show it. -/
structure InFlight where
  active : Nat := 0
  metrics : Metrics := {}
  deriving DecidableEq, Repr

namespace InFlight

/-- The number set, and shown. -/
def setActive (inFlight : InFlight) (active : Nat) : InFlight :=
  ⟨active, inFlight.metrics.set .inFlight active⟩

/-- A request begins. -/
def enter (inFlight : InFlight) : InFlight :=
  inFlight.setActive (inFlight.active + 1)

/-- A request ends. -/
def leave (inFlight : InFlight) : InFlight :=
  inFlight.setActive (inFlight.active - 1)

end InFlight

/-- Named holders of a place among the requests under way. -/
structure HolderRegister where
  holders : List String := []
  inFlight : InFlight := {}
  deriving DecidableEq, Repr

namespace HolderRegister

/-- A holder enters. -/
def track (register : HolderRegister) (name : String) : HolderRegister :=
  let entered := register.inFlight.enter
  if name ∈ register.holders then { register with inFlight := entered.leave }
  else ⟨name :: register.holders, entered⟩

/-- A holder leaves, if it is there. -/
def drop (register : HolderRegister) (name : String) : HolderRegister :=
  if name ∈ register.holders then
    ⟨register.holders.filter (· ≠ name), register.inFlight.leave⟩
  else register

end HolderRegister

end NodeGate
