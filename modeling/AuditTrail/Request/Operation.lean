/-! # Requests

What a host asks of its store, as far as records show it. A request over the transport layer is
an operation, possibly a batch of operations; a request over HTTP has a path, parameters and a
body.
-/

namespace AuditTrail

/-- A shard of an index. -/
structure Shard where
  index : String
  number : Nat
deriving DecidableEq, Repr

def Shard.text (s : Shard) : String := "[" ++ s.index ++ "][" ++ toString s.number ++ "]"

/-- How names of indices are read. -/
structure IndicesOptions where
  expandWildcards : Bool := true
  allowNoIndices : Bool := true
  ignoreUnavailable : Bool := true
deriving DecidableEq, Repr

abbrev Payload := Option (List UInt8)

/-- A request for one document. -/
structure DocumentRequest where
  index : Option String := none
  docType : Option String := none
  id : Option String := none
  source : Payload := none
  shard : Option Shard := none
deriving DecidableEq, Repr

/-- A request for a list of indices, some of which may lack a name. -/
structure IndicesRequest where
  indices : Option (List (Option String)) := none
  docTypes : List String := []
  source : Payload := none
  options : IndicesOptions := {}
deriving DecidableEq, Repr

inductive Operation
  | get (r : DocumentRequest)
  | createIndex (index : Option String) (source : Payload)
  | deleteIndex (r : IndicesRequest)
  | index (r : DocumentRequest)
  | delete (r : DocumentRequest)
  | update (r : DocumentRequest)
  | search (r : IndicesRequest)
  | clusterSettings (persistent transient : Payload)
  | reindex (source : IndicesRequest) (destination : DocumentRequest)
  | deleteByQuery (r : IndicesRequest)
  | updateByQuery (r : IndicesRequest)
  | putMapping (r : IndicesRequest)
  | multiIndex (typeName : String) (r : IndicesRequest)
  /-- A batch of writes to one shard. -/
  | bulkShard (shard : Shard) (items : List Operation)
  | composite (typeName : String) (requests : List Operation)
  | other (typeName : String)
deriving Repr, Inhabited

namespace Operation

/-- What kind of request an operation is. -/
inductive Kind
  | get
  | createIndex
  | deleteIndex
  | index
  | delete
  | update
  | search
  | clusterSettings
  | reindex
  | deleteByQuery
  | updateByQuery
  | putMapping
  | multiIndex
  | bulkShard
  | composite
  | other
deriving DecidableEq, Repr

def kind : Operation → Kind
  | get _ => .get
  | createIndex _ _ => .createIndex
  | deleteIndex _ => .deleteIndex
  | index _ => .index
  | delete _ => .delete
  | update _ => .update
  | search _ => .search
  | clusterSettings _ _ => .clusterSettings
  | reindex _ _ => .reindex
  | deleteByQuery _ => .deleteByQuery
  | updateByQuery _ => .updateByQuery
  | putMapping _ => .putMapping
  | multiIndex _ _ => .multiIndex
  | bulkShard _ _ => .bulkShard
  | composite _ _ => .composite
  | other _ => .other

/-- The name of a request's class, which some requests bring along. -/
def typeName : Operation → String
  | get _ => "GetRequest"
  | createIndex _ _ => "CreateIndexRequest"
  | deleteIndex _ => "DeleteIndexRequest"
  | index _ => "IndexRequest"
  | delete _ => "DeleteRequest"
  | update _ => "UpdateRequest"
  | search _ => "SearchRequest"
  | clusterSettings _ _ => "ClusterUpdateSettingsRequest"
  | reindex _ _ => "ReindexRequest"
  | deleteByQuery _ => "DeleteByQueryRequest"
  | updateByQuery _ => "UpdateByQueryRequest"
  | putMapping _ => "PutMappingRequest"
  | bulkShard _ _ => "BulkShardRequest"
  | multiIndex name _ | composite name _ | other name => name

/-- Whether an operation is a batch. -/
def isBulk : Operation → Bool
  | bulkShard _ _ | composite _ _ => true
  | _ => false

end Operation

end AuditTrail
