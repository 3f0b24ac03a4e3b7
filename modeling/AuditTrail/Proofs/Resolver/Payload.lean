import AuditTrail.Request.Extraction

/-! # Payloads of operations

Which octets an operation of its kind brings along, and the operation without any. What an
extractor finds depends on the payloads in one place, the source.
-/

namespace AuditTrail

def DocumentRequest.withoutSource (r : DocumentRequest) : DocumentRequest :=
  { r with source := none }

def IndicesRequest.withoutSource (r : IndicesRequest) : IndicesRequest :=
  { r with source := none }

namespace Operation

/-- The text of what an operation carries; two groups of settings make one text. -/
def payloadText? : Operation → Option String
  | .index r | .update r => r.source.map Source.text
  | .createIndex _ source => source.map Source.text
  | .clusterSettings persistent transient =>
    Source.combine [("persistent_settings", persistent), ("transient_settings", transient)]
  | .reindex source _ => source.source.map Source.text
  | .deleteIndex r | .search r | .deleteByQuery r | .updateByQuery r | .putMapping r
  | .multiIndex _ r => r.source.map Source.text
  | .get _ | .delete _ | .bulkShard _ _ | .composite _ _ | .other _ => none

/-- The names that a write of a document, or the creation of an index, states. -/
def writtenNames? : Operation → Option (List String)
  | .index r | .update r => some r.index.toList
  | .createIndex name _ => some name.toList
  | _ => none

mutual

/-- The operation without any octets, of its items neither. -/
def withoutPayloads : Operation → Operation
  | .get r => .get r.withoutSource
  | .createIndex name _ => .createIndex name none
  | .deleteIndex r => .deleteIndex r.withoutSource
  | .index r => .index r.withoutSource
  | .delete r => .delete r.withoutSource
  | .update r => .update r.withoutSource
  | .search r => .search r.withoutSource
  | .clusterSettings _ _ => .clusterSettings none none
  | .reindex source destination => .reindex source.withoutSource destination.withoutSource
  | .deleteByQuery r => .deleteByQuery r.withoutSource
  | .updateByQuery r => .updateByQuery r.withoutSource
  | .putMapping r => .putMapping r.withoutSource
  | .multiIndex name r => .multiIndex name r.withoutSource
  | .bulkShard shard items => .bulkShard shard (allWithoutPayloads items)
  | .composite name requests => .composite name (allWithoutPayloads requests)
  | .other name => .other name

def allWithoutPayloads : List Operation → List Operation
  | [] => []
  | a :: rest => a.withoutPayloads :: allWithoutPayloads rest

end

@[simp] theorem typeName_withoutPayloads (a : Operation) :
    a.withoutPayloads.typeName = a.typeName := by
  cases a <;> rfl

@[simp] theorem writtenNames?_withoutPayloads (a : Operation) :
    a.withoutPayloads.writtenNames? = a.writtenNames? := by
  cases a <;> rfl

theorem extract_withoutPayloads (withDetails : Bool) (a : Operation) :
    a.withoutPayloads.extract withDetails = { a.extract withDetails with source := none } := by
  cases a <;> cases withDetails <;> rfl

theorem source_extract (withDetails : Bool) (a : Operation) :
    (a.extract withDetails).source = if withDetails then a.payloadText? else none := by
  cases a <;> cases withDetails <;> rfl

end Operation

end AuditTrail
