import AuditTrail.Proofs.Record.Setters
import AuditTrail.Proofs.Resolver.Fanout
import Mathlib.Data.List.Forall2

/-! # Which payloads records show

Every record belongs to one operation: the request itself or an item of a batch. It shows the
payload of that operation as text unless details are off or the operation writes to the protected
index, and nothing else of a record depends on payloads.
-/

namespace AuditTrail.Resolver

open Json (Value)

variable {r : Resolver} {now : Instant} {scope : Scope} {event : Event}

/-- The record of an operation up to the shard, which is all that stands before its body. -/
def recordHead (r : Resolver) (now : Instant) (event : Event) (shard : Option Shard)
    (typeName : String) (e : Extracted) : Record :=
  (({ category := event.category, created := now } : Record).origin event.origin)
    |>.text .effectiveUser event.effectiveUser
    |>.text .initiatingUser event.initiatingUser
    |>.flag .effectiveUserIsAdmin event.isAdmin
    |>.text .remoteAddress event.remoteAddress
    |>.text .action event.action
    |>.text .requestClass (some typeName)
    |>.text .privilege event.privilege
    |>.list .indices e.indices
    |>.list .resolvedIndices (r.resolved e)
    |>.list .docTypes e.docTypes
    |>.text .docId e.docId
    |>.text .shardId ((shard <|> e.shard).map Shard.text)

theorem record_eq (r : Resolver) (now : Instant) (withDetails : Bool) (event : Event)
    (shard : Option Shard) (a : Operation) :
    r.record now withDetails event shard a =
      withTask
        ((((r.recordHead now event shard a.typeName (a.extract withDetails)).text .requestBody
          (r.shownSource (a.extract withDetails))).table .headers event.headers).text .details
            event.details) event.task := rfl

theorem value?_withTask_of_ne {f : Field} (record : Record) (task : Option Task)
    (hi : f ≠ .taskId) (hp : f ≠ .taskParentId) :
    (withTask record task).value? f = record.value? f := by
  unfold withTask
  split <;> simp [hi, hp]

theorem agreesBut_withTask {f : Field} {s t : Record} (h : s.AgreesBut f t)
    (task : Option Task) : (withTask s task).AgreesBut f (withTask t task) := by
  unfold withTask
  split
  · exact (h.text _ _).text _ _
  · exact h

end AuditTrail.Resolver
