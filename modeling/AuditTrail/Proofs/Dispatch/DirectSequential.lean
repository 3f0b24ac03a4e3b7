import AuditTrail.Dispatch.Machine
import AuditTrail.Proofs.Dispatch.Sequential

/-! # Operations without workers

Whatever a dispatcher without workers does from one operation to the next, its threads can do step
by step, with the same phase and the same counters. Breakdowns of the sink are left out, as they
end the operation that meets them.
-/

namespace AuditTrail.Dispatch.Direct

open Threads (Closer Moves Ticket forall_mem_concat)

variable {ω : Type} {D : Dispatcher ω} {d : Dispatch.State ω}

/-- How a dispatcher between operations shows in its threads. -/
structure Shows (t : State) (d : Dispatch.State ω) : Prop where
  phase : t.phase = d.phase
  counters : t.counters = d.counters
  pool : d.pool = none

/-- Whether all calls have returned, those that submit and those that shut down. -/
def State.AllReturned (t : State) : Prop :=
  (∀ c ∈ t.callers, ∃ k, c = .returned k) ∧ ∀ c ∈ t.closers, c = .returned

/-! ## With a sink -/

section

variable {t : (machine true).State} {sink : Sink ω}

theorem submit_run (hD : D.sink = some (liftSink sink))
    (hs : ∀ now r w, ((sink.store now r).run w).1 ≠ .crashed) (now : Instant) (r : Record)
    (h : Shows t d) (hr : t.AllReturned) :
    ∃ es u, (machine true).Run t es u ∧ Shows u ((D.submit now r).run d).2 ∧ u.AllReturned := by
  let k : Ticket := ⟨t.callers.length, r⟩
  have hm (a b : Caller) : Moves a b (t.callers ++ [a]) (t.callers ++ [b]) := .of_append a b _ []
  have hret := forall_mem_concat hr.1 (a := .returned k) ⟨k, rfl⟩
  have h₁ := (Machine.Run.nil (M := machine true) (s := t)).snoc (Step.call r rfl)
  by_cases ha : d.phase = .active
  · rw [Dispatcher.submit_of_direct hD ha h.pool, Dispatcher.run_deliver]
    have h₂ := (h₁.snoc (Step.enter (h.phase.trans ha) (hm _ (.admitted k)))).snoc
      (Step.countTaken (hm _ (.ready k)))
    have h₃ := ((h₂.snoc (Step.beginStore (hm _ (.storing k)))).snoc
      (Step.endStore (hs now r d.world) (hm _ _))).snoc (Step.countDelivery (hm _ (.returned k)))
    refine ⟨_, _, h₃, ⟨h.phase, ?_, h.pool⟩, hret, hr.2⟩
    let delivery := ((sink.store now r).run d.world).1
    exact congrArg (fun c => c.countSubmitted.countDelivery delivery) h.counters
  · rw [Dispatcher.submit_of_shutDown hD ha]
    have ha' : t.phase ≠ .active := by rwa [h.phase]
    have h₂ := (h₁.snoc (Step.turnAway ha' (hm _ (.refused k)))).snoc
      (Step.countRefused (hm _ (.returned k)))
    exact ⟨_, _, h₂, ⟨h.phase, congrArg Counters.countDropped h.counters, h.pool⟩, hret, hr.2⟩

theorem shutdown_run (hD : D.sink = some (liftSink sink)) (now : Instant) (grace : Grace)
    (h : Shows t d) (hr : t.AllReturned) :
    ∃ es u, (machine true).Run t es u ∧ Shows u ((D.shutdown now grace).run d).2 ∧
      u.AllReturned := by
  have hm (a b : Closer) : Moves a b (t.closers ++ [a]) (t.closers ++ [b]) := .of_append a b _ []
  have hret := forall_mem_concat hr.2 (a := .returned) rfl
  have h₁ := (Machine.Run.nil (M := machine true) (s := t)).snoc Step.shutdown
  by_cases ha : d.phase = .active
  · have hd : (Dispatcher.drain (liftSink sink) now grace).run { d with phase := .draining } =
        ((), { d with phase := .draining }) :=
      Dispatcher.drain_of_direct h.pool
    rw [Dispatcher.shutdown_of_active hD ha, hd]
    have h₂ := ((h₁.snoc (Step.win rfl (h.phase.trans ha) (hm _ (.drained true)))).snoc
      (Step.closeSink (hm _ .leaving))).snoc (Step.setClosed (hm _ .returned))
    exact ⟨_, _, h₂, ⟨rfl, h.counters, h.pool⟩, hr.1, hret⟩
  · rw [Dispatcher.shutdown_of_shutDown ha]
    have ha' : t.phase ≠ .active := by rwa [h.phase]
    have h₂ := h₁.snoc (Step.lose ha' (hm _ .returned))
    exact ⟨_, _, h₂, ⟨h.phase, h.counters, h.pool⟩, hr.1, hret⟩

end

/-! ## Without a sink -/

section

variable {t : (machine false).State}

theorem submit_run_of_disabled (hD : D.sink = none) (now : Instant) (r : Record)
    (h : Shows t d) (hr : t.AllReturned) :
    ∃ es u, (machine false).Run t es u ∧ Shows u ((D.submit now r).run d).2 ∧ u.AllReturned := by
  rw [Dispatcher.submit_of_disabled hD]
  have h₁ := (Machine.Run.nil (M := machine false) (s := t)).snoc (Step.pass r rfl)
  exact ⟨_, _, h₁, ⟨h.phase, h.counters, h.pool⟩, forall_mem_concat hr.1 ⟨_, rfl⟩, hr.2⟩

theorem shutdown_run_of_disabled (hD : D.sink = none) (now : Instant) (grace : Grace)
    (h : Shows t d) (hr : t.AllReturned) :
    ∃ es u, (machine false).Run t es u ∧ Shows u ((D.shutdown now grace).run d).2 ∧
      u.AllReturned := by
  have hm (a b : Closer) : Moves a b (t.closers ++ [a]) (t.closers ++ [b]) := .of_append a b _ []
  have hret := forall_mem_concat hr.2 (a := .returned) rfl
  have h₁ := (Machine.Run.nil (M := machine false) (s := t)).snoc Step.shutdown
  by_cases ha : d.phase = .active
  · rw [Dispatcher.shutdown_of_disabled hD ha]
    have h₂ := (h₁.snoc (Step.winAlone rfl (h.phase.trans ha) (hm _ .leaving))).snoc
      (Step.setClosed (hm _ .returned))
    exact ⟨_, _, h₂, ⟨rfl, h.counters, h.pool⟩, hr.1, hret⟩
  · rw [Dispatcher.shutdown_of_shutDown ha]
    have ha' : t.phase ≠ .active := by rwa [h.phase]
    have h₂ := h₁.snoc (Step.lose ha' (hm _ .returned))
    exact ⟨_, _, h₂, ⟨h.phase, h.counters, h.pool⟩, hr.1, hret⟩

end

/-! ## Whole runs -/

theorem operation_run {sink : Option (Sink ω)} (hD : D.sink = sink.map liftSink)
    (hs : ∀ k ∈ sink, ∀ now r w, ((k.store now r).run w).1 ≠ .crashed) (o : Threads.Operation)
    {t : (machine sink.isSome).State} (h : Shows t d) (hr : t.AllReturned) :
    ∃ es u, (machine sink.isSome).Run t es u ∧ Shows u (o.run D d) ∧ u.AllReturned := by
  cases o with
  | submit now r =>
    cases sink with
    | none => exact submit_run_of_disabled hD now r h hr
    | some sink => exact submit_run hD (hs sink rfl) now r h hr
  | advance now n =>
    refine ⟨[], t, .nil, ?_, hr⟩
    cases sink with
    | none =>
      simp only [Threads.Operation.run, Dispatcher.advance, hD, Option.map_none]
      exact h
    | some sink =>
      simpa only [Threads.Operation.run, Dispatcher.advance, hD, Option.map_some,
        Dispatcher.work_of_direct n h.pool] using h
  | shutdown now grace =>
    cases sink with
    | none => exact shutdown_run_of_disabled hD now grace h hr
    | some sink => exact shutdown_run hD now grace h hr

/-- Whatever is done to a dispatcher without workers is a run of its threads. -/
theorem exists_run {sink : Option (Sink ω)} (hD : D.sink = sink.map liftSink)
    (hp : D.isPooled = false) (hs : ∀ k ∈ sink, ∀ now r w, ((k.store now r).run w).1 ≠ .crashed)
    (world : ω) (os : List Threads.Operation) :
    ∃ es t, (machine sink.isSome).Run (machine sink.isSome).start es t ∧
      Shows t (os.foldl (fun d o => o.run D d) (D.start world)) ∧ t.AllReturned := by
  induction os using List.reverseRecOn with
  | nil => exact ⟨_, _, .nil, ⟨rfl, rfl, by simp [Dispatcher.start, hp]⟩, nofun, nofun⟩
  | append_singleton os o ih =>
    obtain ⟨_, t, hr, h, ha⟩ := ih
    obtain ⟨_, u, hr', h', ha'⟩ := operation_run hD hs o h ha
    rw [List.foldl_append]
    exact ⟨_, u, hr.trans hr', h', ha'⟩

end AuditTrail.Dispatch.Direct
