import AuditTrail.Proofs.Log.Building
import AuditTrail.Proofs.Log.Handed

/-! # Logs that record nothing

A log takes reports where its configuration is usable and there is a sink, one that is given or one
that the registry makes, and where the queue that it needs can be made. Any other log is inert: it
takes calls and switches, can be closed, and leaves everything around it as it is.
-/

namespace AuditTrail.Log

open Dispatch (Counters Grace Phase Settings)

variable {ω : Type}

/-! ## Which logs are enabled -/

namespace Setup

/-- There is a sink to use: one is given, or the registry makes the one that the configuration
names. -/
def OffersSink (s : Setup ω) : Prop :=
  s.sink.isSome = true ∨ ∃ key, s.config.sinkType = some key ∧
    ∃ sink, s.registry.create key s.config.sink s.host = .ok sink

/-- There are to be workers, and their queue would be larger than any can be. -/
def IsOversized (s : Setup ω) : Prop :=
  0 < s.config.threadpoolSize ∧ Settings.maxCapacity < s.config.threadpoolMaxQueueLen

variable {setup : Setup ω}

theorem isSome_namedSink_iff :
    setup.namedSink.isSome = true ↔ ∃ key, setup.config.sinkType = some key ∧
      ∃ sink, setup.registry.create key setup.config.sink setup.host = .ok sink := by
  rw [namedSink, Option.isSome_bind, Option.any_eq_true]
  refine exists_congr fun key => and_congr_right fun _ => ?_
  cases setup.registry.create key setup.config.sink setup.host <;> simp [Except.toOption]

theorem isSome_chosenSink_iff :
    setup.chosenSink.isSome = true ↔ setup.config.isValid = true ∧ setup.OffersSink := by
  unfold chosenSink OffersSink
  rw [← isSome_namedSink_iff]
  cases setup.config.isValid <;> cases setup.sink <;> simp

end Setup

section

variable {setup : Setup ω}

/-- The workers of a log cannot be started exactly where it is to have a sink and workers whose
queue cannot be made. -/
theorem breaks_iff_isOversized :
    (build setup).dispatcher.isPooled = true ∧
        (Settings.ofConfig setup.config).canStart = false ↔
      setup.config.isValid = true ∧ setup.OffersSink ∧ setup.IsOversized := by
  by_cases hv : setup.config.isValid = true
  · rw [breaks_iff hv, Setup.isSome_chosenSink_iff, and_assoc, Setup.IsOversized]
  · refine iff_of_false (fun h => ?_) fun h => hv h.1
    have hs := (isPooled_build_iff.mp h.1).1
    exact hv (Setup.isSome_chosenSink_iff.mp hs).1

theorem build?_eq_none_iff :
    build? setup = none ↔
      setup.config.isValid = true ∧ setup.OffersSink ∧ setup.IsOversized := by
  rw [build?_eq, ← breaks_iff_isOversized]
  simp

theorem build?_eq_some_iff {log : Log ω} :
    build? setup = some log ↔
      ¬ (setup.config.isValid = true ∧ setup.OffersSink ∧ setup.IsOversized) ∧
        build setup = log := by
  rw [build?_eq, Option.ite_none_left_eq_some, breaks_iff_isOversized, Option.some.injEq]

theorem exists_enabled_iff :
    (∃ log, build? setup = some log ∧ log.dispatcher.isEnabled = true) ↔
      setup.config.isValid = true ∧ setup.OffersSink ∧ ¬ setup.IsOversized := by
  have he : (build setup).dispatcher.isEnabled = true ↔
      setup.config.isValid = true ∧ setup.OffersSink := Setup.isSome_chosenSink_iff
  constructor
  · rintro ⟨log, hb, hl⟩
    obtain ⟨ho, rfl⟩ := build?_eq_some_iff.mp hb
    obtain ⟨hv, hs⟩ := he.mp hl
    exact ⟨hv, hs, fun h => ho ⟨hv, hs, h⟩⟩
  · rintro ⟨hv, hs, ho⟩
    exact ⟨build setup, build?_eq_some_iff.mpr ⟨fun h => ho h.2.2, rfl⟩, he.mpr ⟨hv, hs⟩⟩

end

/-! ## Runs of logs that are not enabled -/

def Act.isClose : Act → Bool
  | step x => x.isClose
  | work .. => false

/-- Nothing has been counted, the world is as it was, and the log is closed or it is not. -/
structure IsInert (w : ω) (closed : Bool) (s : State ω) : Prop where
  world : s.world.world = w
  counters : s.counters = {}
  phase : s.phase = if closed then .closed else .active

variable {log : Log ω} {w : ω} {closed : Bool} {s : State ω}

theorem isInert_close (hl : log.dispatcher.sink = none) (h : IsInert w closed s) (now : Instant)
    (grace : Grace) : IsInert w true ((log.close now grace).run s).2 := by
  unfold close
  cases closed with
  | true =>
    have hs : s.phase ≠ .active := by simp [h.phase]
    rw [Dispatcher.shutdown_of_shutDown hs]
    exact h
  | false =>
    rw [Dispatcher.shutdown_of_disabled hl h.phase]
    exact ⟨h.world, h.counters, rfl⟩

theorem isInert_act (hl : log.dispatcher.isEnabled = false) (h : IsInert w closed s) (act : Act) :
    IsInert w (closed || act.isClose) (act.run log s) := by
  have hn : log.dispatcher.sink = none := by
    simpa [Dispatcher.isEnabled] using hl
  cases act with
  | work now deliveries =>
    have hw : (Act.work now deliveries).run log s = s := by
      simp only [Act.run, Dispatcher.advance, hn]
      rfl
    rw [hw]
    simpa [Act.isClose] using h
  | step x =>
    cases x with
    | call now c =>
      have hc : (Act.step (.call now c)).run log s = s := by
        simp only [Act.run, Step.run, handle, hl]
        rfl
      rw [hc]
      simpa [Act.isClose, Step.isClose] using h
    | change c =>
      have hs : IsInert w closed ((Act.step (.change c)).run log s) :=
        ⟨h.world, h.counters, h.phase⟩
      simpa [Act.isClose, Step.isClose] using hs
    | close now grace =>
      have hs : IsInert w true ((Act.step (.close now grace)).run log s) :=
        isInert_close hn h now grace
      simpa [Act.isClose, Step.isClose] using hs

theorem isInert_proceed (hl : log.dispatcher.isEnabled = false) (h : IsInert w closed s)
    (acts : List Act) : IsInert w (closed || acts.any Act.isClose) (log.proceed acts s) := by
  induction acts generalizing closed s with
  | nil => rwa [List.any_nil, Bool.or_false]
  | cons act acts ih =>
    rw [List.any_cons, ← Bool.or_assoc]
    exact ih (isInert_act hl h act)

/-- A log is enabled where its configuration is usable, there is a sink, and the queue for its
workers can be made; where all but the last hold there is no log at all. A log that is not enabled
stays as it is whatever happens to it, until it is closed. -/
theorem enabled_iff_and_inert (setup : Setup ω) :
    ((∃ log, build? setup = some log ∧ log.dispatcher.isEnabled = true) ↔
      setup.config.isValid = true ∧ setup.OffersSink ∧ ¬ setup.IsOversized) ∧
    (build? setup = none ↔
      setup.config.isValid = true ∧ setup.OffersSink ∧ setup.IsOversized) ∧
    ∀ log : Log ω, log.dispatcher.isEnabled = false →
      ∀ (w : ω) (flags : CategoryFlags) (acts : List Act),
      let s := log.proceed acts (log.start w flags)
      s.world.world = w ∧ s.counters = {} ∧
        s.phase = if acts.any Act.isClose then .closed else .active := by
  refine ⟨exists_enabled_iff, build?_eq_none_iff, ?_⟩
  intro log hl w flags acts
  have hs : IsInert w false (log.start w flags) := ⟨rfl, rfl, rfl⟩
  obtain ⟨hw, hc, hp⟩ := isInert_proceed hl hs acts
  exact ⟨hw, hc, hp⟩

/-- A sink is given, and the name of the protected index is blank: a login before the log is closed
and one after it leave no trace. -/
theorem enabled_iff_and_inert_of_blank_index :
    let sink : Sink Unit := { name := "test", store := fun _ _ => pure .stored }
    let setup : Setup (Unit × List Record) :=
      { config := { threadpoolSize := 2, configIndex := " ", sink := .empty }
        registry := {}
        sink := some (Dispatch.liftSink sink.journaled) }
    let login : Act := .step (.call ⟨0, 0⟩ ⟨.failedLogin "mallory", .rest { path := "/" }, {}⟩)
    let acts : List Act := [login, .step (.close ⟨0, 0⟩ ⟨0, 0⟩), login]
    ∃ log, build? setup = some log ∧ log.dispatcher.isEnabled = false ∧
      handed (log.proceed acts (log.start ((), []))) = [] ∧
      (log.proceed acts (log.start ((), []))).counters = {} ∧
      (log.proceed acts (log.start ((), []))).phase = .closed := by
  intro sink setup login acts
  have hv : setup.config.isValid ≠ true := by decide +kernel
  obtain ⟨-, -, hi⟩ := enabled_iff_and_inert setup
  have he : (build setup).dispatcher.isEnabled = false := by
    rw [Bool.eq_false_iff]
    exact fun h => hv (Setup.isSome_chosenSink_iff.mp h).1
  obtain ⟨hw, hc, hp⟩ := hi (build setup) he ((), []) .allOn acts
  have hb : build? setup = some (build setup) := build?_eq_some_iff.mpr ⟨fun h => hv h.1, rfl⟩
  exact ⟨build setup, hb, he, congrArg Prod.snd hw, hc, hp⟩

/-- The configuration is usable and a sink is given, and there is no log that takes reports. -/
theorem no_log_of_oversized_queue :
    let sink : Sink (State Unit) := { name := "test", store := fun _ _ => pure .stored }
    let setup : Setup Unit :=
      { config := { threadpoolSize := 1, threadpoolMaxQueueLen := 2305843009213693952
                    sink := .empty }
        registry := {}
        sink := some sink }
    ¬ ((∃ log, build? setup = some log ∧ log.dispatcher.isEnabled = true) ↔
      setup.config.isValid = true ∧ setup.OffersSink) := by
  intro sink setup h
  have hv : setup.config.isValid = true := by decide +kernel
  have hs : setup.OffersSink := Or.inl rfl
  have ho : setup.IsOversized := by
    constructor <;> decide +kernel
  obtain ⟨-, -, hn⟩ := exists_enabled_iff.mp (h.mpr ⟨hv, hs⟩)
  exact hn ho

end AuditTrail.Log
