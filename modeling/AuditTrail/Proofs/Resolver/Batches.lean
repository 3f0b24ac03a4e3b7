import AuditTrail.Proofs.Resolver.SourcePolicy

/-! # Batches and single requests

An item of a batch that is taken apart gets the record that it would get alone, with the shard of
the batch. A batch that is not taken apart gets no record or one that shows none of its items, and
any other request gets one record.
-/

namespace AuditTrail.Resolver

variable {r : Resolver} {now : Instant} {withDetails : Bool} {event : Event}

/-! ## One record at different times and for different shards -/

theorem withTask_stamped (record : Record) (now : Instant) (task : Option Task) :
    withTask (record.stamped now) task = (withTask record task).stamped now := by
  unfold withTask
  split <;> simp

theorem record_stamped (r : Resolver) (now now' : Instant) (withDetails : Bool) (event : Event)
    (shard : Option Shard) (a : Operation) :
    r.record now' withDetails event shard a =
      (r.record now withDetails event shard a).stamped now' := by
  have hc : ({ category := event.category, created := now' } : Record) =
      ({ category := event.category, created := now } : Record).stamped now' := rfl
  simp only [record, hc, Record.origin_stamped, Record.text_stamped, Record.flag_stamped,
    Record.list_stamped, Record.table_stamped, withTask_stamped]

theorem record_agreesBut_shardId (shard shard' : Option Shard) (a : Operation) :
    (r.record now withDetails event shard a).AgreesBut .shardId
      (r.record now withDetails event shard' a) := by
  rw [record_eq, record_eq]
  exact agreesBut_withTask
    ((((((Record.AgreesBut.refl _ _).text_both _ _).text _ _).table _ _).text _ _)) _

theorem value?_record_eq_recordHead {f : Field} (shard : Option Shard) (a : Operation)
    (hf : f ∉ [Field.requestBody, .headers, .details, .taskId, .taskParentId]) :
    (r.record now withDetails event shard a).value? f =
      (r.recordHead now event shard a.typeName (a.extract withDetails)).value? f := by
  simp only [List.mem_cons, List.not_mem_nil, or_false, not_or] at hf
  obtain ⟨hb, hh, hd, hi, hp⟩ := hf
  rw [record_eq, value?_withTask_of_ne _ _ hi hp, Record.value?_text_of_ne hd,
    Record.value?_table_of_ne hh, Record.value?_text_of_ne hb]

theorem value?_shardId_record (shard : Shard) (a : Operation) :
    (r.record now withDetails event (some shard) a).value? .shardId =
      some (.string shard.text) := by
  rw [value?_record_eq_recordHead _ _ (by decide), recordHead,
    Record.value?_text_eq_some_iff (by simp)]
  refine ⟨shard.text, rfl, ?_, rfl⟩
  simp [Shard.text]

theorem record_of_batchShard (shard : Shard) (a : Operation) :
    r.record now withDetails event (some shard) a =
      (r.record now withDetails event none a).store .shardId (.string shard.text) := by
  have hb : (r.record now withDetails event none a).AgreesBut .shardId
      (r.record now withDetails event (some shard) a) := record_agreesBut_shardId none (some shard) a
  have h := hb.store_left (.string shard.text)
  refine h.symm.eq ?_
  rw [value?_shardId_record, Record.value?_store_self]

/-! ## Batches as a whole -/

/-- A record says of a batch what its class is, and nothing of what is in it. -/
structure ShowsWhole (a : Operation) (record : Record) : Prop where
  /-- A class without a name is left out. -/
  requestClass : (record.string? .requestClass).getD "" = a.typeName
  nothing : ∀ f ∈ [Field.indices, .resolvedIndices, .docTypes, .docId, .shardId, .requestBody],
    record.value? f = none

theorem extract_of_isBulk {a : Operation} (h : a.isBulk = true) (withDetails : Bool) :
    a.extract withDetails = {} := by
  cases a <;> first | rfl | cases h

theorem resolved_empty (r : Resolver) : r.resolved {} = [] := by
  simp [resolved]

theorem shownSource_empty (r : Resolver) : r.shownSource {} = none := by
  simp [shownSource]

theorem record_congr_of_isBulk {a b : Operation} (ha : a.isBulk = true) (hb : b.isBulk = true)
    (h : a.typeName = b.typeName) (shard : Option Shard) :
    r.record now withDetails event shard a = r.record now withDetails event shard b := by
  rw [record_eq, record_eq, extract_of_isBulk ha, extract_of_isBulk hb, h]

theorem string?_requestClass_record (shard : Option Shard) (a : Operation) :
    (r.record now withDetails event shard a).string? .requestClass =
      (some a.typeName).filter fun s => !s.isEmpty := by
  rw [Record.string?_congr (value?_record_eq_recordHead shard a (by decide)), recordHead]
  simp only [Record.string?, Record.value?_text_of_ne, Record.value?_list_of_ne, ne_eq,
    reduceCtorEq, not_false_eq_true]
  exact Record.string?_text_self (by simp) _

theorem string?_action_record (shard : Option Shard) (a : Operation) :
    (r.record now withDetails event shard a).string? .action =
      event.action.filter fun s => !s.isEmpty := by
  rw [Record.string?_congr (value?_record_eq_recordHead shard a (by decide)), recordHead]
  simp only [Record.string?, Record.value?_text_of_ne, Record.value?_list_of_ne, ne_eq,
    reduceCtorEq, not_false_eq_true]
  exact Record.string?_text_self (by simp) _

theorem showsWhole_record {a : Operation} (h : a.isBulk = true) :
    ShowsWhole a (r.record now withDetails event none a) := by
  refine ⟨?_, fun f hf => ?_⟩
  · rw [string?_requestClass_record]
    by_cases hn : a.typeName = "" <;> simp [Option.filter, hn]
  · rw [record_eq, extract_of_isBulk h, shownSource_empty]
    simp only [List.mem_cons, List.not_mem_nil, or_false] at hf
    rcases hf with rfl | rfl | rfl | rfl | rfl | rfl <;>
      rw [value?_withTask_of_ne _ _ (by decide) (by decide)] <;>
      simp [recordHead, resolved_empty]

theorem resolve_of_not_isBulk {a : Operation} (h : a.isBulk = false) (scope : Scope) :
    r.resolve now scope event a = [r.record now scope.withDetails event none a] := by
  rw [resolve_eq_map]
  cases a <;> first | rfl | cases h

theorem resolve_of_whole {a : Operation} (h : a.isBulk = true) :
    r.resolve now ⟨withDetails, false⟩ event a =
      if event.category.isSecurityCritical then [r.record now withDetails event none a] else [] := by
  rw [resolve_eq_map]
  cases a with
  | bulkShard shard items =>
    simp only [recorded, batchShard, Bool.false_eq_true, if_false]
    split <;> rfl
  | composite name requests =>
    simp only [recorded, batchShard, Bool.false_or]
    split <;> rfl
  | _ => cases h

/-- Batches agree with single requests. The records of a batch that is taken apart are those that
its items get alone, with the shard of the batch for any of their own; a batch that is not has no
record, or one of itself as a whole where its category is security critical; and any other request
has one. -/
theorem resolve_batch_and_single (r : Resolver) (now now' : Instant) (withDetails : Bool)
    (event : Event) :
    let lone := r.record now' withDetails event none
    (∀ shard items, List.Forall₂
      (fun a record => record = ((lone a).stamped now).store .shardId
        (.string ("[" ++ shard.index ++ "][" ++ toString shard.number ++ "]")))
      items (r.resolve now ⟨withDetails, true⟩ event (.bulkShard shard items))) ∧
    (∀ a, a.isBulk = true → ShowsWhole a (lone a) ∧
      r.resolve now' ⟨withDetails, false⟩ event a =
        if event.category.isSecurityCritical then [lone a] else []) ∧
    (∀ a b, a.isBulk = true → b.isBulk = true → a.typeName = b.typeName → lone a = lone b) ∧
    (∀ a resolveBulk, a.isBulk = false →
      r.resolve now' ⟨withDetails, resolveBulk⟩ event a = [lone a]) ∧
    ∀ name requests, r.resolve now' ⟨withDetails, true⟩ event (.composite name requests) =
      [lone (.composite name requests)] := by
  intro lone
  refine ⟨fun shard items => ?_, fun a ha => ⟨showsWhole_record ha, resolve_of_whole ha⟩,
    fun a b ha hb h => record_congr_of_isBulk ha hb h none,
    fun a resolveBulk ha => resolve_of_not_isBulk ha _, fun name requests => rfl⟩
  change List.Forall₂ _ items (items.map _)
  rw [List.forall₂_map_right_iff, List.forall₂_same]
  intro a _
  rw [record_of_batchShard, record_stamped r now']
  rfl

/-- A batch in a batch beside an item that names another shard. -/
theorem resolve_batch_and_single_nested :
    let r : Resolver := { configIndex := "searchguard" }
    let event : Event := { category := .missingPrivileges }
    let lone := r.record ⟨0, 0⟩ true event none
    let item : Operation := .index { index := some "movies", shard := some ⟨"logs", 7⟩ }
    let inner : Operation := .bulkShard ⟨"logs", 1⟩ [item, item]
    let records := r.resolve ⟨1, 0⟩ ⟨true, true⟩ event (.bulkShard ⟨"movies", 3⟩ [item, inner])
    item.isBulk = false ∧ inner.isBulk = true ∧
      records = [((lone item).stamped ⟨1, 0⟩).store .shardId (.string "[movies][3]"),
        ((lone inner).stamped ⟨1, 0⟩).store .shardId (.string "[movies][3]")] ∧
      r.resolve ⟨0, 0⟩ ⟨true, true⟩ event item = [lone item] ∧
      r.resolve ⟨0, 0⟩ ⟨true, false⟩ event inner = [lone inner] ∧ ShowsWhole inner (lone inner) := by
  intro r event lone item inner records
  obtain ⟨hf, hw, -, hs, -⟩ := resolve_batch_and_single r ⟨1, 0⟩ ⟨0, 0⟩ true event
  refine ⟨rfl, rfl, ?_, hs item true rfl, (hw inner rfl).2, (hw inner rfl).1⟩
  obtain ⟨_, _, h₁, hr, hl⟩ := List.forall₂_cons_left_iff.mp (hf ⟨"movies", 3⟩ [item, inner])
  obtain ⟨_, _, h₂, hr, hl'⟩ := List.forall₂_cons_left_iff.mp hr
  rw [List.forall₂_nil_left_iff.mp hr] at hl'
  rw [hl', h₁, h₂] at hl
  exact hl

end AuditTrail.Resolver
