import AuditTrail.Document
import AuditTrail.IndexTemplate
import AuditTrail.Sink.Basic
import AuditTrail.Sink.Settings

/-! # Storage sink

Each record becomes a document. The write of a document is itself an operation that the host
reports, so every document carries the header that marks writes of the pipeline.
-/

namespace AuditTrail

/-- Where a storage sink puts its documents. -/
structure Storage where
  /-- The name of the sink. -/
  name : String := "internal_elasticsearch"
  index : IndexTemplate
  docType : String
deriving DecidableEq, Repr

namespace Storage

/-- The index and the document type where settings name none. -/
def defaultName : String := "auditlog"

/-- Reads the settings of a group. -/
def ofSettings (group : String) (s : Sink.Settings) : Storage where
  index := .ofText ((s.text? (group ++ ".index")).getD defaultName)
  docType := (s.text? (group ++ ".doc_type")).getD defaultName

/-- The headers of every document. -/
def headers : Table String := Table.empty.insert internalWriteHeader "true"

/-- The document of a record. The time names the index; it need not be that of the record. -/
def document (s : Storage) (now : Instant) (r : Record) : Document where
  index := s.index.name now
  docType := s.docType
  body := r.toValue
  headers := headers

/-- A refused write is a failed delivery, whatever the store says. -/
def refusal (s : Storage) : Error → Error
  | .delivery sink reason => .delivery sink reason
  | e => .delivery s.name e.message

/-- A sink that writes to a store. -/
def sink {σ : Type} (s : Storage) (store : DocumentStore σ) : Sink σ where
  name := s.name
  store now r := do
    match ← store.write (s.document now r) with
    | .ok () => pure .stored
    | .error e => pure (.failed (s.refusal e))

end Storage

end AuditTrail
