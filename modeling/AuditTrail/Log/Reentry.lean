import AuditTrail.Log.Basic

/-! # Writes that are reported back

A host audits its own store: the write of a document is first reported to the very log whose sink
issued it, and then answered. What these reports lead to may be written and reported in turn.
-/

namespace AuditTrail.Log

/-- What a host does about a write. -/
structure ReportingStore (ω : Type) where
  /-- What it reports to the log first. -/
  reports : Document → StateM ω (List Call)
  /-- What answers in the end. -/
  store : DocumentStore ω

variable {ω : Type}

/-- Takes reports one after the other. -/
def handleAll (log : Log ω) (now : Instant) : List Call → StateM (State ω) Unit
  | [] => pure ()
  | call :: rest => do
    log.handle now call
    handleAll log now rest

namespace ReportingStore

/-- The store of a host that reports writes to a log. -/
def reportingTo (h : ReportingStore ω) (log : Log ω) (now : Instant) : DocumentStore (State ω) where
  write d := do
    let calls ← liftWorld (h.reports d)
    handleAll log now calls
    liftWorld (h.store.write d)

/-- The store of a host that reports to the log over the store itself. Writes that follow from
`depth` reports, each from the write before it, go to an innermost store. -/
def documents (h : ReportingStore ω) (logOver : DocumentStore (State ω) → Log ω) (now : Instant)
    (innermost : DocumentStore (State ω)) : Nat → DocumentStore (State ω)
  | 0 => innermost
  | depth + 1 => h.reportingTo (logOver (h.documents logOver now innermost depth)) now

end ReportingStore

/-- A host whose reports depend on the document alone. -/
structure AuditedStore (ω : Type) where
  reports : Document → List Call
  answer : Document → StateM ω (Except Error Unit)

namespace AuditedStore

def reporting (a : AuditedStore ω) : ReportingStore ω where
  reports d := pure (a.reports d)
  store := { write := a.answer }

/-- The store of the host. Writes that follow from `depth` reports are reported no more. -/
def documents (a : AuditedStore ω) (logOver : DocumentStore (State ω) → Log ω) (now : Instant) :
    Nat → DocumentStore (State ω) :=
  a.reporting.documents logOver now (liftStore a.reporting.store)

end AuditedStore

end AuditTrail.Log
