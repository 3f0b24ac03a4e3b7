import AuditTrail.Context
import AuditTrail.Error

/-! # Documents

Writes to a document store, each with the headers of the request that it is part of.
-/

namespace AuditTrail

structure Document where
  index : String
  docType : String
  body : Json.Value
  headers : Table String
deriving DecidableEq

namespace Document

/-- Whether the pipeline itself wrote the document. -/
def isInternalWrite (d : Document) : Bool := marksInternalWrite d.headers

/-- The parts of a document under their names. -/
def members (d : Document) : List (String × Json.Value) :=
  [("index", .string d.index), ("doc_type", .string d.docType), ("body", d.body),
    ("headers", .object (d.headers.entries.map fun e => (e.1, .string e.2)))]

end Document

/-- A place for documents, as part of a state; a write is accepted or refused. -/
structure DocumentStore (σ : Type) where
  write : Document → StateM σ (Except Error Unit)

end AuditTrail
