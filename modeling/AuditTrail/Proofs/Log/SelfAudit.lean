import AuditTrail.Log.Reentry
import AuditTrail.Proofs.Log.Synchronous

/-! # Reports of the log's own writes

A host that reports the writes of the log to the log, with the headers of the documents, makes no
difference to what is written and counted: such reports have no records. It does not matter how
deep reports may lead to writes, as no report ever leads to one.
-/

namespace AuditTrail

theorem Storage.isInternalWrite_document (g : Storage) (now : Instant) (r : Record) :
    (g.document now r).isInternalWrite = true := by
  have hm : Storage.headers.find? internalWriteHeader = some "true" := by
    rw [Storage.headers, Table.find?_insert, if_pos rfl]
  simp only [Document.isInternalWrite, marksInternalWrite, document, hm]
  decide +kernel

namespace Context

/-- Whether a context has all headers of a document. -/
def Carries (c : Context) (d : Document) : Prop :=
  ∀ k v, d.headers.find? k = some v → c.headers.find? k = some v

theorem Carries.isInternalWrite {c : Context} {d : Document} (h : c.Carries d)
    (hd : d.isInternalWrite = true) : c.isInternalWrite = true := by
  simp only [Document.isInternalWrite, Context.isInternalWrite, marksInternalWrite] at hd ⊢
  cases hv : d.headers.find? internalWriteHeader with
  | none => simp [hv] at hd
  | some v =>
    rw [hv] at hd
    rw [h _ v hv]
    exact hd

end Context

theorem Recorder.records_of_isInternalWrite (p : Recorder) {flags : CategoryFlags} {now : Instant}
    {call : Call} (h : call.context.isInternalWrite = true) : p.records flags now call = [] := by
  rw [records, if_pos h]

theorem Storage.sink_congr {σ : Type} {g : Storage} {store store' : DocumentStore σ}
    (h : ∀ now r, store.write (g.document now r) = store'.write (g.document now r)) :
    g.sink store = g.sink store' := by
  simp only [sink, h]

namespace Log

variable {ω : Type} {now : Instant} {call : Call}

theorem handle_of_isInternalWrite (log : Log ω) (h : call.context.isInternalWrite = true)
    (s : State ω) : (log.handle now call).run s = ((), s) := by
  cases hl : log.dispatcher.sink with
  | none =>
    simp only [handle, Dispatcher.isEnabled, hl]
    rfl
  | some sink =>
    rw [handle_eq hl, log.recorder.records_of_isInternalWrite h]
    rfl

theorem handleAll_of_isInternalWrite (log : Log ω) {calls : List Call}
    (h : ∀ c ∈ calls, c.context.isInternalWrite = true) (s : State ω) :
    (log.handleAll now calls).run s = ((), s) := by
  induction calls with
  | nil => rfl
  | cons c calls ih =>
    rw [List.forall_mem_cons] at h
    rw [handleAll, run_bind, log.handle_of_isInternalWrite h.1]
    exact ih h.2

theorem submitAll_congr {log log' : Log ω} (hs : log.dispatcher.sink = log'.dispatcher.sink)
    (now : Instant) (rs : List Record) : log.submitAll now rs = log'.submitAll now rs := by
  induction rs with
  | nil => rfl
  | cons r rs ih => simp only [submitAll, Dispatcher.submit, hs, ih]

/-- Logs with the same recorder and the same sink take reports alike. -/
theorem handle_congr {log log' : Log ω} (hr : log.recorder = log'.recorder)
    (hs : log.dispatcher.sink = log'.dispatcher.sink) (now : Instant) (call : Call) :
    log.handle now call = log'.handle now call := by
  simp only [handle, Dispatcher.isEnabled, hr, hs, submitAll_congr hs]
  rfl

namespace ReportingStore

variable (h : ReportingStore ω)

/-- Whether the host reports writes with the headers of their documents. -/
def Copies : Prop :=
  ∀ d w, ∀ c ∈ ((h.reports d).run w).1, c.context.Carries d

/-- The store of the host without the log: what it reports is lost. -/
def quiet : DocumentStore ω where
  write d := do
    let _ ← h.reports d
    h.store.write d

/-- The host with a journal of all writes, wherever they come from. -/
def journaled : ReportingStore (ω × Journal) where
  reports d s :=
    let (calls, w) := h.reports d s.1
    (calls, w, s.2)
  store := h.store.journaled

variable {h}

theorem Copies.journaled (hc : h.Copies) : h.journaled.Copies := fun d s => hc d s.1

theorem Copies.handleAll_reports {ω' : Type} (hc : h.Copies) (log : Log ω') (g : Storage)
    (now now' : Instant) (r : Record) (w : ω) (s : State ω') :
    (log.handleAll now ((h.reports (g.document now' r)).run w).1).run s = ((), s) :=
  log.handleAll_of_isInternalWrite
    (fun c hm => (hc _ w c hm).isInternalWrite (g.isInternalWrite_document now' r)) s

/-- A storage sink does not notice whether the host reports its writes. -/
theorem Copies.sink_reportingTo (hc : h.Copies) (g : Storage) (log : Log ω) (now : Instant) :
    g.sink (h.reportingTo log now) = g.sink (liftStore h.quiet) := by
  refine Storage.sink_congr fun now' r => ?_
  funext s
  change ((h.reportingTo log now).write _).run s = _
  rw [reportingTo, run_bind, run_bind, run_liftWorld (h.reports _), hc.handleAll_reports]
  rfl

end ReportingStore

/-! ## Logs whose store reports to them -/

section

variable {h : ReportingStore ω} {g : Storage} {p : Recorder}
variable {logOver : DocumentStore (State (ω × Journal)) → Log (ω × Journal)}

/-- How deep the store of a log reports, and what is below, makes no difference. -/
theorem handle_documents_succ (hc : h.Copies) (hr : ∀ store, (logOver store).recorder = p)
    (hs : ∀ store, (logOver store).dispatcher.sink = some (g.sink store))
    (innermost : DocumentStore (State (ω × Journal))) (depth : Nat) (now : Instant) (call : Call) :
    (logOver (h.journaled.documents logOver now innermost (depth + 1))).handle now call =
      (logOver (liftStore h.quiet.journaled)).handle now call := by
  refine handle_congr ((hr _).trans (hr _).symm) ?_ now call
  rw [hs, hs, ReportingStore.documents, hc.journaled.sink_reportingTo]
  rfl

/-- Where the store of a log reports its writes to the log, each record is written once, and the
reports add nothing to that. -/
theorem handle_of_reported_writes (hc : h.Copies) (hr : ∀ store, (logOver store).recorder = p)
    (hs : ∀ store, (logOver store).dispatcher.sink = some (g.sink store))
    (innermost : DocumentStore (State (ω × Journal))) (depth : Nat) (now : Instant) (call : Call)
    (s : State (ω × Journal)) (hp : s.pool = none) :
    let level n := logOver (h.journaled.documents logOver now innermost n)
    let rs := p.records s.world.flags now call
    let t := (((level (depth + 1)).handle now call).run s).2
    (∀ r w u, ((level depth).handleAll now ((h.reports (g.document now r)).run w).1).run u =
        ((), u)) ∧
      (level (depth + 1)).handle now call =
        (logOver (liftStore h.quiet.journaled)).handle now call ∧
      (s.phase = .active →
        ∃ new : Journal, new.documents = rs.map (g.document now) ∧ Wrote new s t) ∧
      (s.phase ≠ .active → t = s.count (·.countDroppedBy rs.length)) := by
  have hq := handle_documents_succ hc hr hs innermost depth now call
  refine ⟨fun r w u => hc.handleAll_reports _ g now now r w u, hq, fun ha => ?_, fun ha => ?_⟩
  · rw [hq, handle_eq (hs _), hr]
    obtain ⟨new, hd, hw, -⟩ := submitAll_wrote (hs _) ha hp now (p.records s.world.flags now call)
    exact ⟨new, hd, hw⟩
  · rw [hq, handle_eq (hs _), hr, submitAll_of_shutDown (hs _) ha]

/-- A host that reports each write in the name of a user of its own: one failed login, one
document, however deep the reports are followed. -/
theorem handle_of_reported_writes_failedLogin :
    let h : ReportingStore Unit := AuditedStore.reporting
      { reports := fun d =>
          [{ report := .grantedPrivileges "indices:data/write/index"
             request := .transport "indices:data/write/index" (.index { index := some d.index })
             context := { user := some "audit", headers := d.headers } }]
        answer := fun _ => pure (.ok ()) }
    let g : Storage := { index := .ofText "auditlog", docType := "auditlog" }
    let logOver (store : DocumentStore (State (Unit × Journal))) : Log (Unit × Journal) :=
      { recorder := (Log.disabled (ω := Unit)).recorder
        dispatcher := { settings := .synchronous, sink := some (g.sink store) } }
    let log := logOver (h.journaled.documents logOver ⟨0, 0⟩ (liftStore h.journaled.store) 3)
    let call : Call :=
      { report := .failedLogin "mallory", request := .rest { path := "/_login" }, context := {} }
    ∃ new : Journal, new.length = 1 ∧
      Wrote new (log.start ((), [])) ((log.handle ⟨0, 0⟩ call).run (log.start ((), []))).2 := by
  intro h g logOver log call
  have hc : h.Copies := by
    intro d w c hm
    rw [List.mem_singleton.mp hm]
    exact fun _ _ hv => hv
  have hr (store) : (logOver store).recorder = (Log.disabled (ω := Unit)).recorder := rfl
  have hs (store) : (logOver store).dispatcher.sink = some (g.sink store) := rfl
  have hw := handle_of_reported_writes hc hr hs (liftStore h.journaled.store) 2 ⟨0, 0⟩ call
    (log.start ((), [])) rfl
  obtain ⟨new, hn, hw⟩ := hw.2.2.1 rfl
  refine ⟨new, ?_, hw⟩
  have hl := congrArg List.length hn
  rw [Journal.documents, List.length_map, List.length_map] at hl
  rw [hl]
  decide +kernel

end

end Log

end AuditTrail
