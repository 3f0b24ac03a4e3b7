import AuditTrail.Proofs.Log.Synchronous
import Mathlib.Data.List.TakeWhile

/-! # Runs of a log without workers

What a log over a store comes to, whatever is reported to it, switched and closed in whatever
order: a document for each record of the calls before the log is closed, and a count of the
records of the calls after that.
-/

namespace AuditTrail.Log

open Dispatch (Grace)

/-- What is done to a log. -/
inductive Step
  | call (now : Instant) (c : Call)
  | change (c : CategoryFlags.Change)
  | close (now : Instant) (grace : Grace)

namespace Step

def isClose : Step → Bool
  | close .. => true
  | _ => false

/-- What a step makes of the switches. -/
def switch (flags : CategoryFlags) : Step → CategoryFlags
  | change c => flags.apply c
  | _ => flags

def run {ω : Type} (log : Log ω) (s : State ω) : Step → State ω
  | call now c => ((log.handle now c).run s).2
  | change c => ((changeFlags c).run s).2
  | close now grace => ((log.close now grace).run s).2

end Step

/-- The state after some steps. -/
def run {ω : Type} (log : Log ω) (steps : List Step) (s : State ω) : State ω :=
  steps.foldl (Step.run log) s

/-! ## What the steps ask for -/

/-- A call, and when and under which switches it is made. -/
structure Made where
  flags : CategoryFlags
  now : Instant
  call : Call

/-- The calls of some steps. -/
def made (flags : CategoryFlags) : List Step → List Made
  | [] => []
  | .call now c :: rest => ⟨flags, now, c⟩ :: made flags rest
  | x :: rest => made (x.switch flags) rest

/-- What a request of a call resolves to, and when. -/
def Made.resolved (p : Recorder) (m : Made) : List (Instant × Record) :=
  let event := m.call.report.event
  let records :=
    match m.call.request with
    | .rest r => [Recorder.restRecord p.filter m.now event r m.call.context]
    | .transport action operation =>
      p.resolver.resolve m.now
        { withDetails := p.filter.includeDetails, resolveBulk := p.filter.resolveBulk }
        (Recorder.fullEvent event action m.call.context) operation
  records.map (m.now, ·)

/-- Whether a call is none of the pipeline's own and passes the filter. -/
def Made.passes (p : Recorder) (m : Made) : Bool :=
  !m.call.context.isInternalWrite &&
    p.filter.admits m.flags (Recorder.subject m.call.report.event m.call.request m.call.context)

/-- What is to be recorded of some steps. -/
def due (p : Recorder) (flags : CategoryFlags) (steps : List Step) : List (Instant × Record) :=
  ((made flags steps).filter (Made.passes p)).flatMap (Made.resolved p)

theorem Made.records_eq (p : Recorder) (m : Made) :
    (p.records m.flags m.now m.call).map (m.now, ·) =
      if m.passes p then m.resolved p else [] := by
  by_cases hi : m.call.context.isInternalWrite = true
  · simp [Recorder.records, passes, hi]
  · by_cases ha : p.filter.admits m.flags
        (Recorder.subject m.call.report.event m.call.request m.call.context) = true
    · simp only [Recorder.records, passes, resolved, hi, ha]
      rfl
    · simp [Recorder.records, passes, hi, ha]

theorem due_call (p : Recorder) (flags : CategoryFlags) (now : Instant) (c : Call)
    (rest : List Step) :
    due p flags (.call now c :: rest) =
      (p.records flags now c).map (now, ·) ++ due p flags rest := by
  rw [Made.records_eq p ⟨flags, now, c⟩, due, made, List.filter_cons]
  split
  · rw [List.flatMap_cons]
    rfl
  · rfl

/-! ## What the steps do -/

section

variable {ω : Type} {log : Log ω} {sink : Sink (State ω)} {s : State ω} {g : Storage}
variable {store : DocumentStore (State ω)}

theorem close_of_active (hl : log.dispatcher.sink = some (g.sink store)) (ha : s.phase = .active)
    (hp : s.pool = none) (now : Instant) (grace : Grace) :
    ((log.close now grace).run s).2 = { s with phase := .closed } := by
  have hp' : ({ s with phase := .draining } : State ω).pool = none := hp
  rw [close, Dispatcher.shutdown_of_active hl ha, Dispatcher.drain_of_direct hp']
  rfl

/-- A log that is shut down counts the records that it turns away, and does nothing else. -/
theorem run_of_shutDown (hl : log.dispatcher.sink = some sink) (hs : s.phase ≠ .active)
    (steps : List Step) :
    (log.run steps s).world.world = s.world.world ∧
      (log.run steps s).counters =
        s.counters.countDroppedBy (due log.recorder s.world.flags steps).length := by
  induction steps generalizing s with
  | nil => exact ⟨rfl, rfl⟩
  | cons x steps ih =>
    cases x with
    | call now c =>
      have hc : Step.run log s (.call now c) = s.count
          (·.countDroppedBy (log.recorder.records s.world.flags now c).length) := by
        rw [Step.run, handle_eq hl, submitAll_of_shutDown hl hs]
      rw [run, List.foldl_cons, hc, due_call, List.length_append, List.length_map,
        ← Dispatch.Counters.countDroppedBy_add]
      exact ih (s := s.count _) hs
    | change c => exact ih hs
    | close now grace =>
      have hc : Step.run log s (.close now grace) = s := by
        rw [Step.run, close, Dispatcher.shutdown_of_shutDown hs]
      rw [run, List.foldl_cons, hc]
      exact ih hs

theorem dropWhile_cases (steps : List Step) :
    (steps.dropWhile fun x => !x.isClose) = [] ∨
      ∃ now grace rest, (steps.dropWhile fun x => !x.isClose) = .close now grace :: rest := by
  induction steps with
  | nil => exact Or.inl rfl
  | cons x steps ih =>
    cases x with
    | close now grace => exact Or.inr ⟨now, grace, steps, rfl⟩
    | _ => exact ih

/-- From the first close on, a log only counts. -/
theorem run_of_late (hl : log.dispatcher.sink = some (g.sink store)) (ha : s.phase = .active)
    (hp : s.pool = none) (steps : List Step) :
    (log.run (steps.dropWhile fun x => !x.isClose) s).world.world = s.world.world ∧
      (log.run (steps.dropWhile fun x => !x.isClose) s).counters =
        s.counters.countDroppedBy
          (due log.recorder s.world.flags (steps.dropWhile fun x => !x.isClose)).length := by
  rcases dropWhile_cases steps with h | ⟨now, grace, rest, h⟩
  · rw [h]
    exact ⟨rfl, rfl⟩
  · rw [h, run, List.foldl_cons, Step.run, close_of_active hl ha hp]
    exact run_of_shutDown (s := { s with phase := .closed }) hl nofun rest

end

section

variable {ω : Type} {log : Log (ω × Journal)} {store : DocumentStore ω} {g : Storage}
variable {s : State (ω × Journal)}

theorem run_of_open (hl : log.dispatcher.sink = some (g.sink (liftStore store.journaled)))
    (ha : s.phase = .active) (hp : s.pool = none) (steps : List Step)
    (hx : ∀ x ∈ steps, x.isClose = false) :
    ∃ new : Journal,
      new.documents =
        (due log.recorder s.world.flags steps).map (fun x => g.document x.1 x.2) ∧
      Wrote new s (log.run steps s) ∧
      (log.run steps s).world.flags = steps.foldl Step.switch s.world.flags := by
  induction steps generalizing s with
  | nil => exact ⟨[], rfl, .refl hp, rfl⟩
  | cons x steps ih =>
    rw [List.forall_mem_cons] at hx
    cases x with
    | call now c =>
      obtain ⟨new, hd, hw, hf⟩ :=
        submitAll_wrote hl ha hp now (log.recorder.records s.world.flags now c)
      rw [← handle_eq hl] at hw hf
      obtain ⟨new', hd', hw', hf'⟩ := ih (hw.phase.trans ha) hw.pool hx.2
      refine ⟨new ++ new', ?_, hw.trans hw', ?_⟩
      · rw [hf] at hd'
        rw [due_call, List.map_append, List.map_map, Journal.documents, List.map_append]
        change new.documents ++ new'.documents = _
        rw [hd, hd']
        rfl
      · rw [hf] at hf'
        exact hf'
    | change c =>
      obtain ⟨new, hd, hw, hf⟩ := ih (s := ((changeFlags c).run s).2) ha hp hx.2
      exact ⟨new, hd, { hw with }, hf⟩
    | close now grace => cases hx.1

theorem chosenSink_of_builtins {ω : Type} {setup : Setup ω} {console : Console (State ω)}
    {store : DocumentStore (State ω)} (hv : setup.config.isValid = true)
    (ht : setup.config.sinkType = some "internal_elasticsearch")
    (hr : setup.registry = .builtins console) (hd : setup.host.documentStore = some store)
    (hn : setup.sink = none) :
    setup.chosenSink =
      some ((Storage.ofSettings "storage" setup.config.sink).sink store) := by
  have hf : (Sink.Registry.builtins console).registrations.find?
      (Sink.Registry.normalKey "internal_elasticsearch") =
        some { basic := some Sink.Registry.storageConstructor } := by
    have hk : Sink.Registry.normalKey "debug" ≠
        Sink.Registry.normalKey "internal_elasticsearch" := by decide +kernel
    rw [Sink.Registry.builtins, Sink.Registry.register, Table.find?_insert, if_pos rfl,
      Sink.Registry.registration, Sink.Registry.register, Table.find?_insert, if_neg hk]
    rfl
  have hc : setup.registry.create "internal_elasticsearch" setup.config.sink setup.host =
      .ok ((Storage.ofSettings "storage" setup.config.sink).sink store) := by
    simp only [hr, Sink.Registry.create, hf, Sink.Registry.construct,
      Sink.Registry.storageConstructor, hd]
  simp only [Setup.chosenSink, hv, hn, Setup.namedSink, ht, Option.bind_some, hc]
  rfl

theorem start_pool {setup : Setup ω} (hn : setup.config.threadpoolSize ≤ 0) (w : ω)
    (flags : CategoryFlags) : ((build setup).start w flags).pool = none := by
  have hp : (build setup).dispatcher.isPooled = false := by
    rw [Dispatcher.isPooled, Bool.and_eq_false_iff]
    exact Or.inr (decide_eq_false (Int.not_lt.mpr hn))
  rw [start, Dispatcher.start, hp]
  rfl

/-- Before the log is closed for the first time each record becomes a document, whatever became
of those before it; afterwards records are only counted. -/
theorem journal_and_counters_of_run {setup : Setup (ω × Journal)} {g : Storage}
    {store : DocumentStore ω} (hs : setup.chosenSink = some (g.sink (liftStore store.journaled)))
    (hn : setup.config.threadpoolSize ≤ 0) (w : ω) (flags : CategoryFlags) (steps : List Step) :
    let log := build setup
    let s := log.run steps (log.start (w, []) flags)
    let journal := s.world.world.2
    let early := steps.takeWhile fun x => !x.isClose
    let late := steps.dropWhile fun x => !x.isClose
    let offered := due setup.recorder flags early
    journal.documents = offered.map (fun x => g.document x.1 x.2) ∧
      journal.documents.map Document.body = offered.map (fun x => x.2.toValue) ∧
      s.counters.submitted = journal.length ∧
      s.counters.stored = journal.accepted ∧
      s.counters.failed = journal.refused ∧
      s.counters.dropped =
        (due setup.recorder (early.foldl Step.switch flags) late).length := by
  intro log s journal early late offered
  have hl : log.dispatcher.sink = some (g.sink (liftStore store.journaled)) := hs
  have hx : ∀ x ∈ early, x.isClose = false := fun x hm => by
    simpa using List.mem_takeWhile_imp hm
  obtain ⟨new, hd, hw, hf⟩ :=
    run_of_open (s := log.start (w, []) flags) hl rfl (start_pool hn _ _) early hx
  have hrun : s = log.run late (log.run early (log.start (w, []) flags)) := by
    rw [run, run, ← List.foldl_append, List.takeWhile_append_dropWhile]
    rfl
  obtain ⟨hj, hc⟩ := run_of_late hl hw.phase hw.pool steps
  rw [← hrun, hf] at hc
  rw [← hrun] at hj
  have hj : journal = new := (congrArg Prod.snd hj).trans hw.journal
  have hd : journal.documents = offered.map (fun x => g.document x.1 x.2) := hj ▸ hd
  refine ⟨hd, ?_, ?_, ?_, ?_, ?_⟩
  · rw [hd, List.map_map]
    rfl
  · rw [hc, hj]
    exact hw.submitted.trans (Nat.zero_add _)
  · rw [hc, hj]
    exact hw.stored.trans (Nat.zero_add _)
  · rw [hc, hj]
    exact hw.failed.trans (Nat.zero_add _)
  · rw [hc]
    exact (congrArg (· + _) hw.dropped).trans (Nat.zero_add _)

/-- A failed login before the log is closed and one after it, with a store that is full. -/
theorem journal_and_counters_of_run_full_store :
    let store : DocumentStore Unit := { write := fun _ => pure (.error (.io "full")) }
    let console : Console (State (Unit × Journal)) :=
      { write := fun _ => pure (.ok ()), flush := pure (.ok ()) }
    let setup : Setup (Unit × Journal) :=
      { config := { sinkType := some "internal_elasticsearch", threadpoolSize := 0 }
        registry := .builtins console
        host := { documentStore := some (liftStore store.journaled) } }
    let login : Step := .call ⟨0, 0⟩
      { report := .failedLogin "mallory", request := .rest { path := "/_login" }, context := {} }
    let s := (build setup).run [login, .close ⟨0, 0⟩ ⟨0, 0⟩, login]
      ((build setup).start ((), []))
    s.world.world.2.documents.length = 1 ∧ s.counters.submitted = 1 ∧ s.counters.dropped = 1 := by
  intro store console setup login s
  have hs : setup.chosenSink =
      some ((Storage.ofSettings "storage" {}).sink (liftStore store.journaled)) :=
    chosenSink_of_builtins (by decide +kernel) rfl rfl rfl rfl
  obtain ⟨hd, -, hn, -, -, hl⟩ := journal_and_counters_of_run hs (by decide) () .allOn
    [login, .close ⟨0, 0⟩ ⟨0, 0⟩, login]
  have hd := congrArg List.length hd
  rw [List.length_map] at hd
  have h₁ : s.world.world.2.documents.length = 1 := hd.trans (by decide +kernel)
  refine ⟨h₁, hn.trans ?_, hl.trans (by decide +kernel)⟩
  rwa [Journal.documents, List.length_map] at h₁

end

end AuditTrail.Log
