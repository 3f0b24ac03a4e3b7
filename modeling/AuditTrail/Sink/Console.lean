import AuditTrail.Record.Rendering
import AuditTrail.Sink.Basic

/-! # Console sink

Writes each record to a stream, as indented JSON text after a marker.
-/

namespace AuditTrail

/-- A stream of text as part of a state; writing and flushing may fail for a reason. -/
structure Console (σ : Type) where
  write : String → StateM σ (Except String Unit)
  flush : StateM σ (Except String Unit)

namespace Console

/-- What stands before each record. -/
def marker : String := "AUDIT_LOG: "

/-- A record as it stands in the stream. -/
def entry (r : Record) : String := marker ++ r.serializedPretty ++ "\n"

/-- A sink that writes to a stream. -/
def sink {σ : Type} (c : Console σ) : Sink σ where
  name := "debug"
  neverWaits := true
  store _ r := return .ofExcept ((← c.write (entry r)).mapError .io)
  close := return (← c.flush).mapError .io

end Console

end AuditTrail
