import AuditTrail.Request.Operation
import AuditTrail.Source

/-! # What requests say

Each kind of request is read by one extractor; an extractor finds nothing in a request of a
kind that is not its own. Payloads are turned into text only where details are wanted.
-/

namespace AuditTrail

/-- What a record can show of a request. -/
structure Extracted where
  indices : List String := []
  options : IndicesOptions := {}
  docTypes : List String := []
  docId : Option String := none
  shard : Option Shard := none
  source : Option String := none
  /-- Whether the source may be a write to a protected index. -/
  sourceIsSensitive : Bool := false
deriving DecidableEq, Repr

/-- The names that are present. -/
def presentNames (indices : Option (List (Option String))) : List String :=
  (indices.getD []).filterMap id

/-- The text of a payload, if details are wanted. -/
def sourceText (withDetails : Bool) (source : Payload) : Option String :=
  if withDetails then source.map Source.text else none

/-- The ways to read a request. -/
inductive Extractor
  | get
  | createIndex
  | index
  | delete
  | update
  | clusterSettings
  | reindex
  | indices
  | nothing
deriving DecidableEq, Repr

def Operation.Kind.extractor : Operation.Kind → Extractor
  | .get => .get
  | .createIndex => .createIndex
  | .index => .index
  | .delete => .delete
  | .update => .update
  | .clusterSettings => .clusterSettings
  | .reindex => .reindex
  | .deleteIndex | .search | .deleteByQuery | .updateByQuery | .putMapping | .multiIndex =>
    .indices
  | .bulkShard | .composite | .other => .nothing

namespace Extracted

/-- What a request for a document says, its source apart. -/
def ofDocument (r : DocumentRequest) : Extracted :=
  { indices := r.index.toList, docTypes := r.docType.toList, docId := r.id, shard := r.shard }

/-- What a write of a document says. -/
def ofWrite (withDetails : Bool) (r : DocumentRequest) : Extracted :=
  { ofDocument r with source := sourceText withDetails r.source, sourceIsSensitive := true }

def ofIndices (withDetails : Bool) (r : IndicesRequest) : Extracted :=
  { indices := presentNames r.indices
    options := r.options
    docTypes := r.docTypes
    source := sourceText withDetails r.source }

end Extracted

namespace Extractor

/-- What an extractor reads in a request of a shape that it is made for, and none in any other. -/
def read? (withDetails : Bool) : Extractor → Operation → Option Extracted
  | get, .get r => some (.ofDocument r)
  | delete, .delete r => some (.ofDocument r)
  | index, .index r => some (.ofWrite withDetails r)
  | update, .update r => some (.ofWrite withDetails r)
  | createIndex, .createIndex name source => some
    { indices := name.toList
      source := sourceText withDetails source
      sourceIsSensitive := true }
  | clusterSettings, .clusterSettings persistent transient => some
    { source :=
        if withDetails then
          Source.combine
            [("persistent_settings", persistent), ("transient_settings", transient)]
        else none }
  | reindex, .reindex source destination => some
    { indices := presentNames source.indices ++ destination.index.toList
      options := source.options
      docTypes := destination.docType.toList
      source := sourceText withDetails source.source }
  | indices, .deleteIndex r | indices, .search r | indices, .deleteByQuery r
  | indices, .updateByQuery r | indices, .putMapping r | indices, .multiIndex _ r =>
    some (.ofIndices withDetails r)
  | nothing, _ => some {}
  | _, _ => none

/-- What an extractor finds in a request, which is nothing where the shapes do not match. -/
def extract (withDetails : Bool) (e : Extractor) (r : Operation) : Extracted :=
  (e.read? withDetails r).getD {}

end Extractor

/-- What a request says, read as its own kind is read. -/
def Operation.extract (withDetails : Bool) (r : Operation) : Extracted :=
  r.kind.extractor.extract withDetails r

end AuditTrail
