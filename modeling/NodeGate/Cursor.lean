import NodeGate.GuardError
import NodeGate.SecurityContext

/-!
# Cursor ownership

A cursor belongs to whoever created it. `CursorLedger` keeps the first creator of every open
cursor; only a caller that matches the record may go on with it.
-/

namespace NodeGate

/-- Who may go on with a cursor. -/
inductive CursorOwner where
  /-- The cluster itself. -/
  | locallyAuthorized
  /-- This identity, or nobody where there is none. -/
  | identity (owner : Option Identity)
  deriving DecidableEq, Repr

namespace CursorOwner

/-- The owner of a cursor that is created under a context. -/
def ofContext (context : SecurityContext) : CursorOwner :=
  if context.isLocallyAuthorized then .locallyAuthorized else .identity context.identity

/-- Whether a context may go on with a cursor, given the record of its owner if there is one. -/
def check (owner : Option CursorOwner) (context : SecurityContext) : Except GuardError Unit :=
  match owner with
  | some .locallyAuthorized =>
    if context.isLocallyAuthorized then .ok () else .error .cursorOwnershipMismatch
  | some (.identity (some owner)) =>
    if context.identity = some owner then .ok () else .error .cursorOwnershipMismatch
  | some (.identity none) | none => .error .noCursorOwner

end CursorOwner

/-- The owners of the open cursors. -/
structure CursorLedger where
  owners : NameMap CursorOwner := NameMap.empty
  deriving DecidableEq, Repr

namespace CursorLedger

/-- The record of a cursor. -/
def owner? (ledger : CursorLedger) (cursor : String) : Option CursorOwner :=
  ledger.owners.get? cursor

/-- A cursor was created; a cursor that is open keeps its first owner. -/
def create (ledger : CursorLedger) (cursor : String) (context : SecurityContext) : CursorLedger :=
  match ledger.owner? cursor with
  | some _ => ledger
  | none => ⟨ledger.owners.insert cursor (CursorOwner.ofContext context)⟩

/-- A cursor was closed. -/
def close (ledger : CursorLedger) (cursor : String) : CursorLedger :=
  ⟨ledger.owners.erase cursor⟩

/-- Whether a context may go on with a cursor. -/
def validate (ledger : CursorLedger) (cursor : String) (context : SecurityContext) :
    Except GuardError Unit :=
  CursorOwner.check (ledger.owner? cursor) context

/-- How many cursors are open. -/
def openCursors (ledger : CursorLedger) : Nat :=
  ledger.owners.size

end CursorLedger

end NodeGate
