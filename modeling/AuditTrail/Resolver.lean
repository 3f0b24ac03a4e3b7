import AuditTrail.Cluster
import AuditTrail.Context
import AuditTrail.Record.Basic
import AuditTrail.Request.Extraction

/-! # From requests to records

An event over the transport layer becomes one record, or one record for each item of a batch of
writes to a shard. The source of a write to the protected index is left out.
-/

namespace AuditTrail

/-- What is known of an event beside its request. -/
structure Event where
  category : Category
  origin : Origin := .transport
  action : Option String := none
  privilege : Option String := none
  effectiveUser : Option String := none
  isAdmin : Option Bool := none
  initiatingUser : Option String := none
  remoteAddress : Option String := none
  headers : Table String := {}
  task : Option Task := none
  /-- Text that describes a failure. -/
  details : Option String := none

/-- What records should show. -/
structure Scope where
  /-- Whether payloads are shown. -/
  withDetails : Bool := true
  /-- Whether a batch of writes is taken apart. -/
  resolveBulk : Bool := false
deriving DecidableEq, Repr

structure Resolver where
  engine : Pattern.Engine := Pattern.Regex.engine
  /-- The index whose writes keep their source to themselves. -/
  configIndex : String
  resolveIndices : Bool := true
  indexResolver : Option IndexResolver := none
  /-- The state of the cluster, the same for all requests. -/
  cluster : Option Cluster := none

namespace Resolver

/-- The indices that the names of a request refer to. -/
def resolved (r : Resolver) (e : Extracted) : List String :=
  if !r.resolveIndices || e.indices.isEmpty then []
  else
    match r.indexResolver with
    | none => []
    | some resolve => resolve (r.cluster.getD {}) e.options e.indices

/-- Whether a request is a write to the protected index. -/
def isProtectedWrite (r : Resolver) (e : Extracted) : Bool :=
  e.sourceIsSensitive && (e.indices ++ r.resolved e).any (concernsIndex r.engine r.configIndex)

/-- The source that a record may show. -/
def shownSource (r : Resolver) (e : Extracted) : Option String :=
  if r.isProtectedWrite e then none else e.source

/-- A task is shown with the task that started it, and only then. -/
def withTask (record : Record) : Option Task → Record
  | some { id, parentId := some parent } =>
    (record.text .taskId (some id)).text .taskParentId (some parent)
  | _ => record

/-- The record of one request; a batch of writes gives its items their shard. -/
def record (r : Resolver) (now : Instant) (withDetails : Bool) (event : Event)
    (batchShard : Option Shard) (request : Operation) : Record :=
  let e := request.extract withDetails
  let shown : Record := { category := event.category, created := now }
  let shown := shown.origin event.origin
    |>.text .effectiveUser event.effectiveUser
    |>.text .initiatingUser event.initiatingUser
    |>.flag .effectiveUserIsAdmin event.isAdmin
    |>.text .remoteAddress event.remoteAddress
    |>.text .action event.action
    |>.text .requestClass (some request.typeName)
    |>.text .privilege event.privilege
    |>.list .indices e.indices
    |>.list .resolvedIndices (r.resolved e)
    |>.list .docTypes e.docTypes
    |>.text .docId e.docId
    |>.text .shardId ((batchShard <|> e.shard).map Shard.text)
    |>.text .requestBody (r.shownSource e)
    |>.table .headers event.headers
    |>.text .details event.details
  withTask shown event.task

/-- The records of an event. A batch that is not taken apart is recorded as a whole, and only
where its category is security critical. -/
def resolve (r : Resolver) (now : Instant) (scope : Scope) (event : Event)
    (request : Operation) : List Record :=
  match scope.resolveBulk, request with
  | true, .bulkShard shard items =>
    items.map (r.record now scope.withDetails event (some shard))
  | true, request => [r.record now scope.withDetails event none request]
  | false, request =>
    if request.isBulk && !event.category.isSecurityCritical then []
    else [r.record now scope.withDetails event none request]

end Resolver

end AuditTrail
