import AuditTrail.Proofs.Log.Handed
import AuditTrail.Proofs.Record.TextLines
import AuditTrail.Proofs.Resolver.SourcePolicy

/-! # Lines of reported texts

Some texts of a report, its request and its context are stored in records as they are. Where one
of them has a line feed, the text of the record shows lines that belong to no entry, and can be
the text of a record with other entries.
-/

namespace AuditTrail

open Text (IsLine)

/-! ## Records of requests -/

namespace Recorder

/-- The texts that the record of a request over HTTP stores as they are. -/
def restTexts (f : Filter) (event : Event) (q : RestRequest) (ctx : Context) :
    List (Option String) :=
  [ctx.resolveUser event.effectiveUser, event.initiatingUser, ctx.resolveRemoteAddress,
    event.privilege, some q.path, shownBody f q, event.details]

theorem isSingleLined_restRecord_iff (f : Filter) (now : Instant) (event : Event)
    (q : RestRequest) (ctx : Context) :
    (restRecord f now event q ctx).IsSingleLined ↔
      ∀ s, some s ∈ restTexts f event q ctx → IsLine s.toList := by
  have ho : IsLine (Origin.tag .rest).toList := by decide
  unfold restRecord Record.origin
  simp (disch := simp) only [Record.isSingleLined_text_iff, Record.isSingleLined_flag_iff,
    Record.isSingleLined_table_iff, Record.isSingleLined_start]
  simp only [restTexts, List.mem_cons, List.not_mem_nil, or_false, or_imp, forall_and]
  simp [ho, and_assoc, eq_comm]

end Recorder

namespace Resolver

/-- The texts of a task that a record shows. -/
def taskTexts : Option Task → List (Option String)
  | some { id, parentId := some parent } => [some id, some parent]
  | _ => []

theorem isSingleLined_withTask_iff {record : Record} (hi : record.value? .taskId = none)
    (hp : record.value? .taskParentId = none) (task : Option Task) :
    (withTask record task).IsSingleLined ↔
      record.IsSingleLined ∧ ∀ s, some s ∈ taskTexts task → IsLine s.toList := by
  rcases task with _ | ⟨id, _ | parent⟩
  · simp [withTask, taskTexts]
  · simp [withTask, taskTexts]
  · have hp' : (record.text .taskId (some id)).value? .taskParentId = none := by simp [hp]
    rw [withTask, Record.isSingleLined_text_iff hp', Record.isSingleLined_text_iff hi]
    simp [taskTexts, and_assoc]

/-- The texts that the record of a request over the transport layer stores as they are. -/
def storedTexts (r : Resolver) (withDetails : Bool) (event : Event) (batchShard : Option Shard)
    (a : Operation) : List (Option String) :=
  let e := a.extract withDetails
  [event.effectiveUser, event.initiatingUser, event.remoteAddress, event.action, some a.typeName,
    event.privilege, e.docId, (batchShard <|> e.shard).map Shard.text, r.shownSource e,
    event.details] ++ taskTexts event.task

theorem isSingleLined_record_iff (r : Resolver) (now : Instant) (withDetails : Bool)
    (event : Event) (batchShard : Option Shard) (a : Operation) :
    (r.record now withDetails event batchShard a).IsSingleLined ↔
      ∀ s, some s ∈ r.storedTexts withDetails event batchShard a → IsLine s.toList := by
  have ho : IsLine event.origin.tag.toList := by
    cases event.origin <;> decide
  unfold record Record.origin
  simp (disch := simp) only [isSingleLined_withTask_iff, Record.isSingleLined_text_iff,
    Record.isSingleLined_flag_iff, Record.isSingleLined_list_iff, Record.isSingleLined_table_iff,
    Record.isSingleLined_start]
  simp only [storedTexts, List.mem_append, List.mem_cons, List.not_mem_nil, or_false, or_imp,
    forall_and]
  simp [ho, and_assoc, eq_comm]

end Resolver

/-! ## Records that are handed over -/

namespace Log

open Dispatch (liftSink)

/-- The texts that the records of a call store as they are. -/
def Made.storedTexts (p : Recorder) (m : Made) : List (Option String) :=
  match m.call.request with
  | .rest q => Recorder.restTexts p.filter m.call.report.event q m.call.context
  | .transport action a =>
    let scope : Scope := ⟨p.filter.includeDetails, p.filter.resolveBulk⟩
    let event := Recorder.fullEvent m.call.report.event action m.call.context
    (Resolver.recorded scope event.category a).flatMap
      (p.resolver.storedTexts scope.withDetails event (Resolver.batchShard scope a))

theorem Made.isSingleLined_of_mem_records {p : Recorder} {m : Made}
    (h : ∀ s, some s ∈ m.storedTexts p → IsLine s.toList) {r : Record} (hr : r ∈ m.records p) :
    r.IsSingleLined := by
  obtain ⟨-, ⟨q, hq, rfl⟩ | ⟨action, a, hq, b, hb, rfl⟩⟩ := m.cases_of_mem_records hr
  · rw [Recorder.isSingleLined_restRecord_iff]
    simpa only [Made.storedTexts, hq] using h
  · rw [Resolver.isSingleLined_record_iff]
    intro s hs
    apply h
    simp only [Made.storedTexts, hq]
    exact List.mem_flatMap.mpr ⟨b, hb, hs⟩

/-- Where no text of the calls has a line feed, the text of each record that the sink is given is
the lines of its entries, and tells them from those of any other record that the sink is given. -/
theorem toText_of_handed {ω : Type} {setup : Setup (ω × List Record)} {sink : Sink ω}
    (hs : setup.chosenSink = some (liftSink sink.journaled)) {w : ω} {flags : CategoryFlags}
    {acts : List Act}
    (h : ∀ m ∈ calls flags acts, ∀ s, some s ∈ m.storedTexts setup.recorder → IsLine s.toList) :
    let records := handed ((build setup).proceed acts ((build setup).start (w, []) flags))
    ∀ r ∈ records, Text.split '\n' r.toText = r.shown.map Record.lineText ++ [""] ∧
      Record.readText r.toText = r.shown.map (fun e => (e.1.label, e.2)) ∧
      ∀ s ∈ records, r.toText = s.toText → r.shown = s.shown := by
  intro records
  have hl : ∀ r ∈ records, r.IsSingleLined := fun r hr => by
    obtain ⟨m, hm, hmr⟩ := mem_records_of_mem_handed hs hr
    exact m.isSingleLined_of_mem_records (h m hm) hmr
  intro r hr
  exact ⟨Record.split_toText (hl r hr), Record.readText_toText (hl r hr),
    fun s hs' => Record.shown_eq_of_toText_eq (hl r hr) (hl s hs')⟩

/-- A user name with a line feed: the text of the record shows an address that nobody was seen
at, and is the text of the record of another user who was seen there. -/
theorem forged_line_handed :
    let sink : Sink Unit := { name := "test", store := fun _ _ => pure .stored }
    let setup : Setup (Unit × List Record) :=
      { config := { threadpoolSize := 0, sink := .empty }
        registry := {}
        sink := some (liftSink sink.journaled) }
    let failed (user : String) (address : Option String) : Call :=
      { report := .failedLogin user
        request := .rest { path := "/" }
        context := { remoteAddress := address } }
    let run call :=
      handed ((build setup).proceed [.step (.call ⟨0, 0⟩ call)] ((build setup).start ((), [])))
    let forged := run (failed "mallory\nRemote address: 203.0.113.9" none)
    let honest := run (failed "mallory" (some "203.0.113.9"))
    setup.chosenSink = some (liftSink sink.journaled) ∧
      forged.map (fun r => r.shown.map fun e => (e.1.label, e.2)) ≠
        honest.map (fun r => r.shown.map fun e => (e.1.label, e.2)) ∧
      forged.map Record.toText = honest.map Record.toText ∧
      forged.map (fun r => r.shown.length) = [5] ∧
      forged.map (fun r => (Text.split '\n' r.toText).length) = [7] := by
  intro sink setup failed run forged honest
  refine ⟨chosenSink_of_stated (by decide +kernel) rfl, ?_, ?_, ?_, ?_⟩
  all_goals decide +kernel

end Log

end AuditTrail
