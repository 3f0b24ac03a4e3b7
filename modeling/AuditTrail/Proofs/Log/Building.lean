import AuditTrail.Log.Basic
import Mathlib.Logic.Basic

/-! # Building a log

A usable configuration asks for no workers, or for some within the bounds on their number and with
room for one record at least. What it does not bound is the queue from above: a log with a sink
and workers cannot be built where the queue would be larger than any can be.
-/

namespace AuditTrail

open Dispatch (Settings)

theorem Config.bounds_of_isValid {c : Config} (h : c.isValid = true) :
    c.threadpoolSize ≤ maxThreadpoolSize ∧ 0 < c.threadpoolMaxQueueLen := by
  by_cases hs : maxThreadpoolSize < c.threadpoolSize
  · rw [isValid, check, if_pos hs] at h
    cases h
  by_cases hq : c.threadpoolMaxQueueLen ≤ 0
  · rw [isValid, check, if_neg hs, if_pos hq] at h
    cases h
  exact ⟨Int.not_lt.mp hs, Int.not_le.mp hq⟩

namespace Dispatch.Settings

variable {c : Config} {s : Settings}

theorem isPooled_ofConfig : (ofConfig c).isPooled = decide (0 < c.threadpoolSize) :=
  rfl

theorem workerCount_ofConfig (h : c.isValid = true) (hp : 0 < c.threadpoolSize) :
    ((ofConfig c).workerCount : Int) = c.threadpoolSize := by
  have hb := (Config.bounds_of_isValid h).1
  have hw : (ofConfig c).workerCount =
      (min (max c.threadpoolSize 0) Config.maxThreadpoolSize).toNat := rfl
  omega

theorem workerCount_ofConfig_of_nonpos (hp : c.threadpoolSize ≤ 0) :
    (ofConfig c).workerCount = 0 := by
  have hw : (ofConfig c).workerCount =
      (min (max c.threadpoolSize 0) Config.maxThreadpoolSize).toNat := rfl
  omega

theorem capacity_ofConfig (h : c.isValid = true) :
    ((ofConfig c).capacity : Int) = c.threadpoolMaxQueueLen := by
  have hb := (Config.bounds_of_isValid h).2
  have hc : (ofConfig c).capacity = max (max c.threadpoolMaxQueueLen 1).toNat 1 := rfl
  omega

theorem canStart_eq_false_iff (hw : 0 < s.workerCount) :
    s.canStart = false ↔ maxCapacity < s.capacity := by
  have hc : 0 < s.capacity := Nat.lt_of_lt_of_le Nat.zero_lt_one (Nat.le_max_right ..)
  simp [canStart, hw, hc]

end Dispatch.Settings

namespace Log

variable {ω : Type} {setup : Setup ω}

theorem build?_eq (setup : Setup ω) :
    build? setup =
      if (build setup).dispatcher.isPooled ∧ (Settings.ofConfig setup.config).canStart = false then
        none
      else some (build setup) := by
  rw [build?, Dispatcher.ofSettings?]
  by_cases h : (build setup).dispatcher.isPooled ∧
      (Settings.ofConfig setup.config).canStart = false
  · rw [if_pos h, if_pos (by simpa [build] using h)]
    rfl
  · rw [if_neg h, if_neg (by simpa [build] using h)]
    rfl

theorem isPooled_build_iff :
    (build setup).dispatcher.isPooled = true ↔
      setup.chosenSink.isSome = true ∧ 0 < setup.config.threadpoolSize := by
  simp [build, Dispatcher.isPooled, Dispatcher.isEnabled, Settings.isPooled_ofConfig]

theorem breaks_iff (h : setup.config.isValid = true) :
    (build setup).dispatcher.isPooled = true ∧
        (Settings.ofConfig setup.config).canStart = false ↔
      setup.chosenSink.isSome = true ∧ 0 < setup.config.threadpoolSize ∧
        Settings.maxCapacity < setup.config.threadpoolMaxQueueLen := by
  rw [isPooled_build_iff, and_assoc]
  refine and_congr_right fun _ => and_congr_right fun hp => ?_
  have hw := Settings.workerCount_ofConfig h hp
  rw [Settings.canStart_eq_false_iff (by omega), ← Settings.capacity_ofConfig h, Int.ofNat_lt]

/-- What a usable configuration asks for is within bounds, the length of the queue apart, and that
length alone decides whether a log with a sink and workers can be built. -/
theorem build?_of_isValid (h : setup.config.isValid = true) :
    let c := setup.config
    let s := Settings.ofConfig c
    (c.threadpoolSize ≤ 0 ∧ s.poolSize ≤ 0 ∧ s.isPooled = false ∧ s.workerCount = 0 ∨
      s.isPooled = true ∧ s.workerCount = c.threadpoolSize ∧ 1 ≤ s.workerCount ∧
        s.workerCount ≤ 1024 ∧ s.capacity = c.threadpoolMaxQueueLen ∧ 1 ≤ s.capacity) ∧
    build? setup =
      if setup.chosenSink.isSome = true ∧ 0 < c.threadpoolSize ∧
          Settings.maxCapacity < c.threadpoolMaxQueueLen then none
      else some (build setup) := by
  intro c s
  refine ⟨?_, (build?_eq setup).trans (if_congr (breaks_iff h) rfl rfl)⟩
  rcases Int.lt_or_le 0 c.threadpoolSize with hp | hn
  · have hw : (s.workerCount : Int) = c.threadpoolSize := Settings.workerCount_ofConfig h hp
    have hq : (s.capacity : Int) = c.threadpoolMaxQueueLen := Settings.capacity_ofConfig h
    have hb : c.threadpoolSize ≤ 1024 := (Config.bounds_of_isValid h).1
    have hb' : 0 < c.threadpoolMaxQueueLen := (Config.bounds_of_isValid h).2
    exact Or.inr ⟨decide_eq_true hp, hw, by omega, by omega, hq, by omega⟩
  · exact Or.inl ⟨hn, hn, decide_eq_false (Int.not_lt.mpr hn),
      Settings.workerCount_ofConfig_of_nonpos hn⟩

/-- One worker with the largest queue that there can be. -/
theorem build?_of_isValid_largest_queue :
    let sink : Sink (State Unit) := { name := "test", store := fun _ _ => pure .stored }
    let config : Config :=
      { threadpoolSize := 1, threadpoolMaxQueueLen := 2305843009213693951, sink := .empty }
    let setup : Setup Unit := { config, registry := {}, sink := some sink }
    config.isValid = true ∧ (Settings.ofConfig config).workerCount = 1 ∧
      build? setup = some (build setup) := by
  intro sink config setup
  have hv : setup.config.isValid = true := by decide +kernel
  obtain ⟨hs, hb⟩ := build?_of_isValid hv
  refine ⟨hv, ?_, hb.trans (if_neg (by decide +kernel))⟩
  rcases hs with ⟨hn, -⟩ | ⟨-, hw, -⟩
  · exact absurd hn (by decide +kernel)
  · exact Int.ofNat_inj.mp hw

/-- A configuration is usable although a queue of the length that it asks for cannot be made, and
a log with a sink and a worker is not built. -/
theorem oversized_queue_accepted :
    let sink : Sink (State Unit) := { name := "test", store := fun _ _ => pure .stored }
    let config : Config :=
      { threadpoolSize := 1, threadpoolMaxQueueLen := 2305843009213693952, sink := .empty }
    let setup : Setup Unit := { config, registry := {}, sink := some sink }
    config.isValid = true ∧ (Settings.ofConfig config).isPooled = true ∧
      Settings.maxCapacity < (Settings.ofConfig config).capacity ∧
      (build? setup).isNone = true := by
  decide +kernel

end Log

end AuditTrail
