import AuditTrail.Error
import AuditTrail.Record.Basic

/-! # Sinks

A sink takes records to where they are kept, one at a time, and acts on a state that holds that
place.
-/

namespace AuditTrail

/-- What becomes of a record at its sink. -/
inductive Delivery
  | stored
  | failed (e : Error)
  /-- The sink broke down while it stored the record. -/
  | crashed
deriving DecidableEq, Repr

def Delivery.ofExcept : Except Error Unit → Delivery
  | .ok () => stored
  | .error e => failed e

structure Sink (σ : Type) where
  name : String
  /-- Whether storing never waits for a slow backend. -/
  neverWaits : Bool := false
  store : Instant → Record → StateM σ Delivery
  close : StateM σ (Except Error Unit) := pure (.ok ())

end AuditTrail
