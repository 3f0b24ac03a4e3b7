import AuditTrail.Dispatch.Drain

/-! # What the operations of a dispatcher do

Each operation as a function from the state before it to the state after it, case by case.
-/

namespace AuditTrail

section Stateful

variable {σ α β : Type}

theorem run_bind (x : StateM σ α) (f : α → StateM σ β) (s : σ) :
    (x >>= f).run s = (f (x.run s).1).run (x.run s).2 :=
  rfl

-- By tactic, so that `simp` does not take it for definitional: it would not rewrite the instances
-- of conditions on the state otherwise.
theorem run_get (s : σ) : (get : StateM σ σ).run s = (s, s) := by
  rfl

theorem run_set (s t : σ) : (set t : StateM σ PUnit).run s = (⟨⟩, t) :=
  rfl

theorem run_modify (f : σ → σ) (s : σ) : (modify f : StateM σ PUnit).run s = (⟨⟩, f s) :=
  rfl

end Stateful

open Dispatch (Grace Phase Pool Queue State liftSink)

namespace Dispatcher

variable {ω : Type} {d : Dispatcher ω} {sink : Sink (State ω)} {now : Instant} {r : Record}
variable {s : State ω} {p : Pool} {grace : Grace}

theorem run_deliver (sink : Sink (State ω)) (now : Instant) (r : Record) (s : State ω) :
    (deliver sink now r).run s =
      ((), ((sink.store now r).run s).2.count
        (·.countDelivery ((sink.store now r).run s).1)) :=
  rfl

/-! ## Submitting -/

theorem submit_of_disabled (hd : d.sink = none) : (d.submit now r).run s = ((), s) := by
  simp only [submit, hd]
  rfl

theorem submit_of_shutDown (hd : d.sink = some sink) (hs : s.phase ≠ .active) :
    (d.submit now r).run s = ((), s.count (·.countDropped)) := by
  simp only [submit, hd, run_bind, run_get, bne_iff_ne, ne_eq, hs, not_false_eq_true, if_true]
  rfl

theorem submit_of_direct (hd : d.sink = some sink) (hs : s.phase = .active)
    (hp : s.pool = none) :
    (d.submit now r).run s = (deliver sink now r).run (s.count (·.countSubmitted)) := by
  simp only [submit, hd, run_bind, run_get, hs, hp]
  rfl

theorem submit_of_offer {q : Queue Record} (hd : d.sink = some sink) (hs : s.phase = .active)
    (hp : s.pool = some p) (hq : p.queue.offer? r = some q) :
    (d.submit now r).run s =
      ((), { s.count (·.countSubmitted) with pool := some { p with queue := q } }) := by
  simp only [submit, hd, run_bind, run_get, hs, hp, hq]
  rfl

theorem submit_of_no_room (hd : d.sink = some sink) (hs : s.phase = .active)
    (hp : s.pool = some p) (hq : p.queue.offer? r = none) :
    (d.submit now r).run s = ((), s.count (·.countDropped)) := by
  simp only [submit, hd, run_bind, run_get, hs, hp, hq]
  rfl

/-! ## Working -/

theorem finish_of_direct (hp : s.pool = none) : (finish sink now).run s = ((), s) := by
  simp only [finish, run_bind, run_get, hp]
  rfl

theorem finish_of_nil (hp : s.pool = some p) (hi : p.inFlight = []) :
    (finish sink now).run s = ((), s) := by
  simp only [finish, run_bind, run_get, hp, hi]
  rfl

theorem finish_of_cons {sink : Sink ω} {rest : List Record} (hp : s.pool = some p)
    (hi : p.inFlight = r :: rest) :
    ((finish (liftSink sink) now).run s).2 =
      { s with
        pool := some { p with inFlight := rest }
        world := ((sink.store now r).run s.world).2
        counters :=
          if p.abandoned = true ∧ ((sink.store now r).run s.world).1 = .crashed then s.counters
          else s.counters.countDelivery ((sink.store now r).run s.world).1 } := by
  have hl (s : State ω) : ((liftSink sink).store now r).run s =
      (((sink.store now r).run s.world).1,
        { s with world := ((sink.store now r).run s.world).2 }) :=
    rfl
  simp only [finish, run_bind, run_get, hp, hi, run_set, hl, Bool.not_eq_true',
    Bool.and_eq_false_iff, beq_eq_false_iff_ne]
  by_cases ha : p.abandoned = true ∧ ((sink.store now r).run s.world).1 = .crashed
  · rw [if_pos ha, if_neg (by grind)]
    rfl
  · rw [if_neg ha, if_pos (by grind)]
    rfl

theorem of_take?_eq_some {t : State ω} (hp : s.pool = some p) (h : s.take? = some t) :
    p.inFlight.length < p.workers ∧ ∃ r q, p.queue.take? = some (r, q) ∧
      ((p.cancelled = true ∧
          t = { s.count (·.countDropped) with pool := some { p with queue := q } }) ∨
        (p.cancelled = false ∧
          t = { s with pool := some { p with queue := q, inFlight := p.inFlight ++ [r] } })) := by
  simp only [State.take?, hp, Option.bind_eq_bind, Option.bind_some] at h
  split at h
  · cases h
  · next hw =>
    obtain ⟨⟨r, q⟩, hq, h⟩ := Option.bind_eq_some_iff.mp h
    refine ⟨by omega, r, q, hq, ?_⟩
    split at h <;> simp_all

theorem takeAll_of_direct (hp : s.pool = none) : s.takeAll = s := by
  simp [State.takeAll, hp, State.takeUpTo]

theorem work_of_direct (n : Nat) (hp : s.pool = none) : (work sink now n).run s = ((), s) := by
  induction n with
  | zero => simp only [work, run_modify, takeAll_of_direct hp]
  | succ n ih =>
    simp only [work, run_bind, run_modify, takeAll_of_direct hp, finish_of_direct hp, ih]

/-! ## Shutting down -/

theorem withPool_of_direct (f : Pool → Pool) (hp : s.pool = none) : s.withPool f = s := by
  cases s
  simp_all [State.withPool]

theorem drain_of_direct (hp : s.pool = none) : (drain sink now grace).run s = ((), s) := by
  have hd : s.isDrained = true := by simp [State.isDrained, hp]
  simp only [drain, run_bind, run_modify, withPool_of_direct _ hp, work_of_direct _ hp, run_get, hd]
  rfl

/-- What is left of a dispatcher after each period of grace decides how a shutdown goes on. -/
theorem drain_eq {t u : State ω}
    (ht : ((work sink now grace.first).run
      (s.withPool fun p => { p with queue := p.queue.close })).2 = t)
    (hu : ((work sink now grace.second).run (t.withPool fun p => { p with cancelled := true })).2 =
      u) :
    ((drain sink now grace).run s).2 =
      if t.isDrained then t else if u.isDrained then u
      else u.withPool fun p => { p with queue := p.queue.clear, abandoned := true } := by
  simp only [drain, run_bind, run_modify, run_get, ht]
  split
  · rfl
  · simp only [run_bind, run_modify, run_get, hu]
    split <;> rfl

theorem shutdown_of_shutDown (hs : s.phase ≠ .active) :
    (d.shutdown now grace).run s = ((), s) := by
  simp only [shutdown, run_bind, run_get, bne_iff_ne, ne_eq, hs, not_false_eq_true, if_true]
  rfl

theorem shutdown_of_disabled (hd : d.sink = none) (hs : s.phase = .active) :
    ((d.shutdown now grace).run s).2 = { s with phase := .closed } := by
  simp only [shutdown, run_bind, run_get, hs, hd]
  rfl

theorem shutdown_of_active (hd : d.sink = some sink) (hs : s.phase = .active) :
    ((d.shutdown now grace).run s).2 =
      { (sink.close.run ((drain sink now grace).run { s with phase := .draining }).2).2 with
        phase := .closed } := by
  simp only [shutdown, run_bind, run_get, hs, hd]
  rfl

end Dispatcher

end AuditTrail
