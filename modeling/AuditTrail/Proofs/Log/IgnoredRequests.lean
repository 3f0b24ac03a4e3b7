import AuditTrail.Proofs.Filter.Rules
import AuditTrail.Proofs.Log.Handed
import AuditTrail.Proofs.Resolver.Batches

/-! # Ignored requests

The filter looks at a request before it is taken apart. So no record names an action or a path
that is ignored, nor the class of a request that is; but the items of a batch that is taken apart
have records of their own, whatever their classes.
-/

namespace AuditTrail

/-- Whether requests of a name are to be ignored. -/
def Config.Ignores (c : Config) (engine : Pattern.Engine) (name : String) : Prop :=
  ∃ p ∈ c.ignoreRequests, (Pattern.ofText engine p).accepts name = true

theorem Config.not_ignores_iff {c : Config} {engine : Pattern.Engine} {name : String} :
    ¬ c.Ignores engine name ↔
      ∀ p ∈ c.ignoreRequests, (Pattern.ofText engine p).accepts name = false := by
  simp only [Ignores, not_exists, not_and, Bool.not_eq_true]

namespace Recorder

variable {f : Filter} {now : Instant} {event : Event} {q : RestRequest} {ctx : Context}

theorem string?_restPath_restRecord :
    (restRecord f now event q ctx).string? .restPath = (some q.path).filter fun s => !s.isEmpty := by
  simp only [restRecord, Record.string?, Record.value?_text_of_ne, Record.value?_table_of_ne, ne_eq,
    reduceCtorEq, not_false_eq_true]
  exact Record.string?_text_self (by simp) _

theorem string?_action_restRecord : (restRecord f now event q ctx).string? .action = none := by
  simp [restRecord, Record.string?]

theorem string?_requestClass_restRecord :
    (restRecord f now event q ctx).string? .requestClass = none := by
  simp [restRecord, Record.string?]

end Recorder

theorem Resolver.string?_restPath_record {r : Resolver} {now : Instant} {withDetails : Bool}
    {event : Event} (shard : Option Shard) (a : Operation) :
    (r.record now withDetails event shard a).string? .restPath = none := by
  rw [Record.string?, value?_record_eq_recordHead shard a (by decide)]
  simp [recordHead]

namespace Log

open Dispatch (liftSink)

variable {engine : Pattern.Engine} {c : Config} {p : Recorder} {m : Made} {r : Record}

/-- A record of a call names nothing that is ignored. -/
structure Unignored (engine : Pattern.Engine) (c : Config) (m : Made) (r : Record) : Prop where
  action : ∀ t, r.string? .action = some t → ¬ c.Ignores engine t
  path : ∀ t, r.string? .restPath = some t → ¬ c.Ignores engine t
  /-- The items of a batch are not looked at. -/
  requestClass : ∀ t, r.string? .requestClass = some t → c.Ignores engine t →
    c.resolveBulkRequests = true ∧ ∃ action shard items,
      m.call.request = .transport action (.bulkShard shard items) ∧ ∃ a ∈ items, a.typeName = t

theorem Made.not_ignores_of_passes (hp : p.filter = .ofConfig engine c) (h : m.passes p = true)
    {n : String}
    (hn : n ∈ (Recorder.subject m.call.report.event m.call.request
      m.call.context).requestNames) : ¬ c.Ignores engine n := by
  rw [passes, Bool.and_eq_true, hp] at h
  have ha := Filter.names_of_admits h.2
  rw [Config.not_ignores_iff, ← Filter.accepts_ofTexts_eq_false_iff]
  exact Bool.eq_false_iff.mpr (List.any_eq_false.mp ha n hn)

theorem Made.unignored_of_rest (hp : p.filter = .ofConfig engine c) {q : RestRequest}
    (hm : m.call.request = .rest q) (hr : r ∈ m.records p) : Unignored engine c m r := by
  rw [records_of_rest hm, List.mem_ite_nil_right, List.mem_singleton] at hr
  obtain ⟨h, rfl⟩ := hr
  have hn : ¬ c.Ignores engine q.path := by
    refine not_ignores_of_passes hp h ?_
    rw [hm]
    exact List.mem_singleton_self _
  refine ⟨fun t ht => ?_, fun t ht => ?_, fun t ht => ?_⟩
  · rw [Recorder.string?_action_restRecord] at ht
    cases ht
  · rw [Recorder.string?_restPath_restRecord, Option.filter_eq_some_iff] at ht
    rwa [← Option.some.inj ht.1]
  · rw [Recorder.string?_requestClass_restRecord] at ht
    cases ht

theorem Made.unignored_of_transport (hp : p.filter = .ofConfig engine c) {action : String}
    {a : Operation} (hm : m.call.request = .transport action a) (hr : r ∈ m.records p) : Unignored engine c m r := by
  rw [records_of_transport hm, List.mem_ite_nil_right, Resolver.resolve_eq_map, List.mem_map] at hr
  obtain ⟨h, b, hb, rfl⟩ := hr
  have hn : ∀ n ∈ [action, a.typeName], ¬ c.Ignores engine n := by
    intro n hn
    refine not_ignores_of_passes hp h ?_
    rw [hm]
    exact hn
  refine ⟨fun t ht => ?_, fun t ht => ?_, fun t ht hi => ?_⟩
  · rw [Resolver.string?_action_record, Option.filter_eq_some_iff] at ht
    rw [← Option.some.inj ht.1]
    exact hn _ List.mem_cons_self
  · rw [Resolver.string?_restPath_record] at ht
    cases ht
  · rw [Resolver.string?_requestClass_record, Option.filter_eq_some_iff] at ht
    have hbt : b.typeName = t := Option.some.inj ht.1
    have hne : b ≠ a := by
      rintro rfl
      exact hn _ (List.mem_cons_of_mem _ List.mem_cons_self) (hbt ▸ hi)
    obtain ⟨hs, shard, items, rfl, hb'⟩ := Resolver.of_mem_recorded_of_ne hb hne
    rw [hp] at hs
    exact ⟨hs, action, shard, items, hm, b, hb', hbt⟩

variable {ω : Type}

/-- Each record that the sink is given is of a call that passed the filter, and names nothing that
is ignored, the classes of items of a batch apart. -/
theorem unignored_of_mem_handed {setup : Setup (ω × List Record)} {sink : Sink ω}
    (hs : setup.chosenSink = some (liftSink sink.journaled)) (w : ω) (flags : CategoryFlags)
    (acts : List Act) :
    let log := build setup
    ∀ r ∈ handed (log.proceed acts (log.start (w, []) flags)),
      ∃ m ∈ calls flags acts, r ∈ m.records setup.recorder ∧
        Unignored setup.engine setup.config m r := by
  intro log r hr
  obtain ⟨m, hm, hr⟩ := mem_records_of_mem_handed hs hr
  refine ⟨m, hm, hr, ?_⟩
  cases hq : m.call.request with
  | rest q => exact m.unignored_of_rest rfl hq hr
  | transport action a => exact m.unignored_of_transport rfl hq hr

/-- With one worker: of a path and of an action that are ignored nothing is recorded, and the
failed login beside them is. -/
theorem unignored_of_mem_handed_one_worker :
    let sink : Sink Unit := { name := "test", store := fun _ _ => pure .stored }
    let config : Config :=
      { threadpoolSize := 1, ignoreRequests := ["indices:data/read/*", "/_nodes*"], sink := .empty }
    let setup : Setup (Unit × List Record) :=
      { config, registry := {}, sink := some (liftSink sink.journaled) }
    let login (path : String) : Step := .call ⟨0, 0⟩
      { report := .failedLogin "mallory", request := .rest { path }, context := {} }
    let search : Step := .call ⟨0, 0⟩
      { report := .grantedPrivileges "indices:data/read/search"
        request := .transport "indices:data/read/search" (.search {}), context := {} }
    let acts : List Act :=
      [.step (login "/_nodes/stats"), .step search, .step (login "/_login"), .work ⟨1, 0⟩ 3]
    let s := (build setup).proceed acts ((build setup).start ((), []))
    (handed s).map (·.string? .restPath) = [some "/_login"] ∧
      setup.chosenSink = some (liftSink sink.journaled) ∧
      ∀ r ∈ handed s, ∃ m ∈ calls .allOn acts, r ∈ m.records setup.recorder ∧
        Unignored setup.engine config m r := by
  refine ⟨by decide +kernel, ?_, ?_⟩
  · exact chosenSink_of_stated (by decide +kernel) rfl
  · exact unignored_of_mem_handed (chosenSink_of_stated (by decide +kernel) rfl) () .allOn _

/-- An item of a batch is recorded although requests of its class are ignored. -/
theorem ignored_item_handed :
    let sink : Sink Unit := { name := "test", store := fun _ _ => pure .stored }
    let config : Config :=
      { threadpoolSize := 0, resolveBulkRequests := true, ignoreRequests := ["IndexRequest"]
        sink := .empty }
    let setup : Setup (Unit × List Record) :=
      { config, registry := {}, sink := some (liftSink sink.journaled) }
    let item : Operation := .index { index := some "movies", id := some "1" }
    let call : Call :=
      { report := .grantedPrivileges "indices:data/write/bulk"
        request := .transport "indices:data/write/bulk" (.bulkShard ⟨"movies", 0⟩ [item])
        context := {} }
    let s := (build setup).proceed [.step (.call ⟨0, 0⟩ call)] ((build setup).start ((), []))
    config.isValid = true ∧ config.Ignores setup.engine "IndexRequest" ∧
      (handed s).map (·.string? .requestClass) = [some "IndexRequest"] := by
  refine ⟨by decide +kernel, ⟨"IndexRequest", List.mem_cons_self, by decide +kernel⟩, ?_⟩
  decide +kernel

end Log

end AuditTrail
