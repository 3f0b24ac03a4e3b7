import AuditTrail.Proofs.Resolver.Payload
import Mathlib.Data.List.ReduceOption

/-! # Reading requests by their kind

The table gives every kind of request an extractor, and every shape of request a kind. The two are
in step: an extractor reads the requests of the kinds that the table gives it, and finds nothing in
any other. So a request that is read by its own kind shows all the names that it carries, and where
details are not wanted no payload makes a difference.
-/

namespace AuditTrail

namespace Operation

/-- The names of indices that a request carries, with a gap for each that is missing. A batch
carries none beside those of its items. -/
def namedIndices : Operation → List (Option String)
  | .get r | .index r | .delete r | .update r => [r.index]
  | .createIndex name _ => [name]
  | .reindex source destination => source.indices.getD [] ++ [destination.index]
  | .deleteIndex r | .search r | .deleteByQuery r | .updateByQuery r | .putMapping r
  | .multiIndex _ r => r.indices.getD []
  | .clusterSettings _ _ | .bulkShard _ _ | .composite _ _ | .other _ => []

theorem indices_extract (withDetails : Bool) (a : Operation) :
    (a.extract withDetails).indices = a.namedIndices.reduceOption := by
  cases a with
  | get r | index r | delete r | update r => exact (List.reduceOption_singleton r.index).symm
  | createIndex name source => exact (List.reduceOption_singleton name).symm
  | reindex source destination =>
    rw [namedIndices, List.reduceOption_append, List.reduceOption_singleton]
    rfl
  | _ => rfl

@[simp] theorem kind_withoutPayloads (a : Operation) : a.withoutPayloads.kind = a.kind := by
  cases a <;> rfl

theorem extract_false_withoutPayloads (a : Operation) :
    a.withoutPayloads.extract false = a.extract false := by
  have h : none = (a.extract false).source := (source_extract false a).symm
  rw [extract_withoutPayloads, h]

end Operation

namespace Extractor

variable {withDetails : Bool} {e : Extractor} {a b : Operation}

/-- An extractor cannot read a request if the table does not give it to the request's kind, unless
it is the one that finds nothing, which reads all. -/
theorem read?_eq_none_iff :
    e.read? withDetails a = none ↔ e ≠ .nothing ∧ e ≠ a.kind.extractor := by
  cases e <;> cases a <;> simp [read?, Operation.kind, Operation.Kind.extractor]

theorem read?_extractor_kind (withDetails : Bool) (a : Operation) :
    a.kind.extractor.read? withDetails a = some (a.extract withDetails) := by
  obtain ⟨found, h⟩ : ∃ found, a.kind.extractor.read? withDetails a = some found :=
    Option.ne_none_iff_exists'.mp fun h => (read?_eq_none_iff.mp h).2 rfl
  rw [Operation.extract, extract, h, Option.getD_some]

theorem extract_of_ne (h : e ≠ a.kind.extractor) : e.extract withDetails a = {} := by
  by_cases hn : e = .nothing
  · rw [hn]
    rfl
  · rw [extract, read?_eq_none_iff.mpr ⟨hn, h⟩, Option.getD_none]

theorem source_extract_false (e : Extractor) (a : Operation) :
    (e.extract false a).source = none := by
  by_cases h : e = a.kind.extractor
  · rw [h]
    exact Operation.source_extract false a
  · rw [extract_of_ne h]

theorem extract_false_congr (h : a.withoutPayloads = b.withoutPayloads) (e : Extractor) :
    e.extract false a = e.extract false b := by
  have hk : a.kind = b.kind := by
    simpa using congrArg Operation.kind h
  by_cases he : e = a.kind.extractor
  · calc e.extract false a = a.extract false := by rw [he, Operation.extract]
      _ = b.extract false := by
        rw [← Operation.extract_false_withoutPayloads a, h,
          Operation.extract_false_withoutPayloads]
      _ = e.extract false b := by rw [he, hk, Operation.extract]
  · rw [extract_of_ne he, extract_of_ne (hk ▸ he)]

/-- The table is in step with the shapes of requests. Read as any kind, a request shows what it
shows as its own kind, or nothing, by whether the table gives both kinds one extractor. Read as its
own kind it is of the right shape, and shows the names that it carries and no others, and the text
of its payload if details are wanted. Where they are not it shows no source, and the same whatever
its payloads are. -/
theorem extract_by_kind (a : Operation) :
    (∀ (k : Operation.Kind) withDetails, k.extractor.extract withDetails a =
      if k.extractor = a.kind.extractor then a.kind.extractor.extract withDetails a else {}) ∧
    (∀ withDetails, a.kind.extractor.read? withDetails a = some (a.extract withDetails) ∧
      (a.extract withDetails).indices = a.namedIndices.reduceOption ∧
      (a.extract withDetails).source = if withDetails then a.payloadText? else none) ∧
    ∀ k : Operation.Kind, (k.extractor.extract false a).source = none ∧
      ∀ b, a.withoutPayloads = b.withoutPayloads →
        k.extractor.extract false a = k.extractor.extract false b := by
  refine ⟨fun k withDetails => ?_, fun withDetails => ?_, fun k => ?_⟩
  · split
    · next h => rw [h]
    · next h => exact extract_of_ne h
  · exact ⟨read?_extractor_kind withDetails a, Operation.indices_extract withDetails a,
      Operation.source_extract withDetails a⟩
  · exact ⟨source_extract_false k.extractor a, fun b h => extract_false_congr h k.extractor⟩

/-- A reindex with a gap among its sources, read as a search and as what it is. -/
theorem extract_by_kind_reindex :
    let request (octets : List UInt8) : Operation :=
      .reindex { indices := some [some "logs-1", none, some "logs-2"], source := some octets }
        { index := some "archive", source := some octets }
    (request [65]).withoutPayloads = (request [66, 67]).withoutPayloads ∧
      Operation.Kind.search.extractor.extract true (request [65]) = {} ∧
      ((request [65]).extract true).indices = ["logs-1", "logs-2", "archive"] ∧
      (request [65]).extract false = (request [66, 67]).extract false := by
  intro request
  obtain ⟨hs, ho, hp⟩ := extract_by_kind (request [65])
  exact ⟨rfl, hs .search true, (ho true).2.1, (hp .reindex).2 (request [66, 67]) rfl⟩

end Extractor

end AuditTrail
