import AuditTrail.Proofs.Resolver.Payload
import AuditTrail.Resolver

/-! # What a request is taken apart into

The operations that get a record each: the items of a batch to a shard where batches are taken
apart, the request itself otherwise, and none where a batch is passed over.
-/

namespace AuditTrail.Resolver

/-- The operations that the records of a request are about, in the order of the records. -/
def recorded (scope : Scope) (category : Category) (request : Operation) : List Operation :=
  match request with
  | .bulkShard _ items =>
    if scope.resolveBulk then items
    else if category.isSecurityCritical then [request] else []
  | .composite _ _ =>
    if scope.resolveBulk || category.isSecurityCritical then [request] else []
  | _ => [request]

/-- The shard that a batch gives its items where it is taken apart. -/
def batchShard (scope : Scope) : Operation → Option Shard
  | .bulkShard shard _ => if scope.resolveBulk then some shard else none
  | _ => none

theorem resolve_eq_map (r : Resolver) (now : Instant) (scope : Scope) (event : Event)
    (request : Operation) :
    r.resolve now scope event request =
      (recorded scope event.category request).map
        (r.record now scope.withDetails event (batchShard scope request)) := by
  obtain ⟨withDetails, resolveBulk⟩ := scope
  cases resolveBulk <;> cases request <;> cases h : event.category.isSecurityCritical <;>
    simp [resolve, recorded, batchShard, Operation.isBulk, h]

theorem of_mem_recorded_of_ne {scope : Scope} {category : Category} {a b : Operation}
    (hb : b ∈ recorded scope category a) (hne : b ≠ a) :
    scope.resolveBulk = true ∧ ∃ shard items, a = .bulkShard shard items ∧ b ∈ items := by
  cases a with
  | bulkShard shard items =>
    simp only [recorded] at hb
    split at hb
    · next hs => exact ⟨hs, shard, items, rfl, hb⟩
    · split at hb
      · exact absurd (List.mem_singleton.mp hb) hne
      · cases hb
  | composite name requests =>
    simp only [recorded] at hb
    split at hb
    · exact absurd (List.mem_singleton.mp hb) hne
    · cases hb
  | _ => exact absurd (List.mem_singleton.mp hb) hne

@[simp] theorem batchShard_withoutPayloads (scope : Scope) (request : Operation) :
    batchShard scope request.withoutPayloads = batchShard scope request := by
  cases request <;> rfl

end AuditTrail.Resolver
