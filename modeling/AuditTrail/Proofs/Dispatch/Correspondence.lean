import AuditTrail.Proofs.Dispatch.Operations
import Mathlib.Data.List.Forall2

/-! # Dispatchers side by side

What a dispatcher does with a record depends neither on the record nor on what its sink answers.
Two dispatchers that are given corresponding records hold corresponding records, and their sinks
are given corresponding records, through work and shutdown alike.
-/

namespace AuditTrail

open Dispatch (Grace Pool Queue State liftSink)

namespace Dispatch

/-! ## Queues -/

/-- Two queues differ in corresponding items at most. -/
structure Queue.Corresponds {α : Type} (R : α → α → Prop) (q q' : Queue α) : Prop where
  capacity : q.capacity = q'.capacity
  isOpen : q.isOpen = q'.isOpen
  items : List.Forall₂ R q.items q'.items

namespace Queue.Corresponds

variable {α : Type} {R : α → α → Prop} {q q' : Queue α}

theorem offer? (h : q.Corresponds R q') {a a' : α} (ha : R a a') :
    Option.Rel (Queue.Corresponds R) (q.offer? a) (q'.offer? a') := by
  have hc : (q.isOpen = true ∧ q.items.length < q.capacity) ↔
      (q'.isOpen = true ∧ q'.items.length < q'.capacity) := by
    rw [h.isOpen, h.capacity, h.items.length_eq]
  unfold Queue.offer?
  by_cases hq : q.isOpen = true ∧ q.items.length < q.capacity
  · rw [dif_pos hq, dif_pos (hc.mp hq)]
    exact .some ⟨h.capacity, h.isOpen, List.rel_append h.items (.cons ha .nil)⟩
  · rw [dif_neg hq, dif_neg (mt hc.mpr hq)]
    exact .none

theorem take? (h : q.Corresponds R q') :
    Option.Rel (fun x x' => R x.1 x'.1 ∧ x.2.Corresponds R x'.2) q.take? q'.take? := by
  obtain ⟨capacity, items, isOpen, hl⟩ := q
  obtain ⟨capacity', items', isOpen', hl'⟩ := q'
  obtain ⟨hc, ho, hi⟩ := h
  cases hi with
  | nil => exact .none
  | cons ha hi => exact .some ⟨ha, hc, ho, hi⟩

theorem close (h : q.Corresponds R q') : q.close.Corresponds R q'.close := { h with isOpen := rfl }

theorem clear (h : q.Corresponds R q') : q.clear.Corresponds R q'.clear :=
  { h with items := .nil }

end Queue.Corresponds

/-! ## States -/

/-- Two pools differ in corresponding records at most. -/
structure Pool.Corresponds (R : Record → Record → Prop) (p p' : Pool) : Prop where
  workers : p.workers = p'.workers
  queue : p.queue.Corresponds R p'.queue
  inFlight : List.Forall₂ R p.inFlight p'.inFlight
  cancelled : p.cancelled = p'.cancelled

theorem Pool.Corresponds.isDrained {R : Record → Record → Prop} {p p' : Pool}
    (h : p.Corresponds R p') : p.isDrained = p'.isDrained := by
  have hq := h.queue.items.length_eq
  have hi := h.inFlight.length_eq
  rw [Pool.isDrained, Pool.isDrained, Bool.eq_iff_iff]
  simp only [Bool.and_eq_true, List.isEmpty_iff_length_eq_zero, hq, hi]

variable {ω ω' : Type}

/-- Two states differ in corresponding records, related worlds and counters at most. -/
structure State.Corresponds (R : Record → Record → Prop) (W : ω → ω' → Prop) (s : State ω)
    (s' : State ω') : Prop where
  phase : s.phase = s'.phase
  pool : Option.Rel (Pool.Corresponds R) s.pool s'.pool
  world : W s.world s'.world

namespace State.Corresponds

variable {R : Record → Record → Prop} {W : ω → ω' → Prop} {s : State ω} {s' : State ω'}

theorem pool_cases (h : s.Corresponds R W s') :
    (s.pool = none ∧ s'.pool = none) ∨
      ∃ p p', s.pool = some p ∧ s'.pool = some p' ∧ p.Corresponds R p' := by
  have hp := h.pool
  generalize s.pool = x at hp
  generalize s'.pool = x' at hp
  cases hp with
  | none => exact Or.inl ⟨rfl, rfl⟩
  | some hp => exact Or.inr ⟨_, _, rfl, rfl, hp⟩

theorem withPool (h : s.Corresponds R W s') {f : Pool → Pool}
    (hf : ∀ p p', p.Corresponds R p' → (f p).Corresponds R (f p')) :
    (s.withPool f).Corresponds R W (s'.withPool f) := by
  refine { h with pool := ?_ }
  rcases h.pool_cases with ⟨hp, hp'⟩ | ⟨p, p', hp, hp', hc⟩
  · simp only [State.withPool, hp, hp']
    exact .none
  · simp only [State.withPool, hp, hp']
    exact .some (hf p p' hc)

theorem isDrained (h : s.Corresponds R W s') : s.isDrained = s'.isDrained := by
  rcases h.pool_cases with ⟨hp, hp'⟩ | ⟨p, p', hp, hp', hc⟩
  · rw [State.isDrained, State.isDrained, hp, hp']
  · rw [State.isDrained, State.isDrained, hp, hp']
    exact hc.isDrained

theorem take? (h : s.Corresponds R W s') :
    Option.Rel (State.Corresponds R W) s.take? s'.take? := by
  rcases h.pool_cases with ⟨hp, hp'⟩ | ⟨p, p', hp, hp', hc⟩
  · simp only [State.take?, hp, hp']
    exact .none
  · have hq := hc.queue.take?
    simp only [State.take?, hp, hp', Option.bind_eq_bind, Option.bind_some]
    by_cases hw : p.workers ≤ p.inFlight.length
    · rw [if_pos hw, if_pos (hc.workers ▸ hc.inFlight.length_eq ▸ hw)]
      exact .none
    · rw [if_neg hw, if_neg (hc.workers ▸ hc.inFlight.length_eq ▸ hw)]
      generalize p.queue.take? = x at hq ⊢
      generalize p'.queue.take? = x' at hq ⊢
      cases hq with
      | none => exact .none
      | some hx =>
        simp only [Option.bind_some]
        by_cases hk : p.cancelled = true
        · rw [if_pos hk, if_pos (hc.cancelled ▸ hk)]
          exact .some { h with pool := .some { hc with queue := hx.2 } }
        · rw [if_neg hk, if_neg (hc.cancelled ▸ hk)]
          exact .some { h with
            pool := .some { hc with
              queue := hx.2
              inFlight := List.rel_append hc.inFlight (.cons hx.1 .nil) } }

theorem takeUpTo (h : s.Corresponds R W s') (n : Nat) :
    (s.takeUpTo n).Corresponds R W (s'.takeUpTo n) := by
  induction n generalizing s s' with
  | zero => exact h
  | succ n ih =>
    have ht := h.take?
    simp only [State.takeUpTo]
    generalize s.take? = x at ht ⊢
    generalize s'.take? = x' at ht ⊢
    cases ht with
    | none => exact h
    | some ht => exact ih ht

theorem takeAll (h : s.Corresponds R W s') : s.takeAll.Corresponds R W s'.takeAll := by
  rcases h.pool_cases with ⟨hp, hp'⟩ | ⟨p, p', hp, hp', hc⟩
  · rw [Dispatcher.takeAll_of_direct hp, Dispatcher.takeAll_of_direct hp']
    exact h
  · simp only [State.takeAll, hp, hp', Option.map_some, hc.queue.items.length_eq]
    exact h.takeUpTo _

end State.Corresponds

/-- Two sinks that are given corresponding records keep their worlds related. -/
structure Keep (R : Record → Record → Prop) (W : ω → ω' → Prop) (sink : Sink ω)
    (sink' : Sink ω') : Prop where
  store : ∀ now now' r r' w w', R r r' → W w w' →
    W ((sink.store now r).run w).2 ((sink'.store now' r').run w').2
  close : ∀ w w', W w w' → W (sink.close.run w).2 (sink'.close.run w').2

end Dispatch

/-! ## Operations -/

namespace Dispatcher

open Dispatch (Keep)

variable {ω ω' : Type} {R : Record → Record → Prop} {W : ω → ω' → Prop}
variable {d : Dispatcher ω} {d' : Dispatcher ω'} {sink : Sink ω} {sink' : Sink ω'}
variable {s : State ω} {s' : State ω'} {now now' : Instant} {grace : Grace}

theorem corresponds_start (hs : d.settings = d'.settings) (he : d.isEnabled = d'.isEnabled)
    {w : ω} {w' : ω'} (hw : W w w') : (d.start w).Corresponds R W (d'.start w') := by
  refine ⟨rfl, ?_, hw⟩
  have hp : d.isPooled = d'.isPooled := by rw [isPooled, isPooled, hs, he]
  simp only [start, hp, hs]
  by_cases hi : d'.isPooled = true
  · rw [if_pos hi]
    exact .some ⟨rfl, ⟨rfl, rfl, .nil⟩, .nil, rfl⟩
  · rw [if_neg hi]
    exact .none

theorem corresponds_submit (hd : d.sink = some (liftSink sink)) (hd' : d'.sink = some (liftSink sink'))
    (hk : Keep R W sink sink') (h : s.Corresponds R W s') {r r' : Record} (hr : R r r') :
    ((d.submit now r).run s).2.Corresponds R W ((d'.submit now' r').run s').2 := by
  by_cases hs : s.phase = .active
  · have hs' : s'.phase = .active := h.phase ▸ hs
    rcases h.pool_cases with ⟨hp, hp'⟩ | ⟨p, p', hp, hp', hc⟩
    · rw [submit_of_direct hd hs hp, submit_of_direct hd' hs' hp', run_deliver, run_deliver]
      exact { h with world := hk.store now now' r r' _ _ hr h.world }
    · have hq := hc.queue.offer? hr
      cases ho : p.queue.offer? r <;> cases ho' : p'.queue.offer? r' <;> rw [ho, ho'] at hq
      · rw [submit_of_no_room hd hs hp ho, submit_of_no_room hd' hs' hp' ho']
        exact { h with }
      · cases hq
      · cases hq
      · cases hq with
        | some hq =>
          rw [submit_of_offer hd hs hp ho, submit_of_offer hd' hs' hp' ho']
          exact { h with pool := .some { hc with queue := hq } }
  · have hs' : s'.phase ≠ .active := h.phase ▸ hs
    rw [submit_of_shutDown hd hs, submit_of_shutDown hd' hs']
    exact { h with }

theorem counters_submit (hd : d.sink = some (liftSink sink)) (hd' : d'.sink = some (liftSink sink'))
    (h : s.Corresponds R W s') (hc : s.counters = s'.counters) {r r' : Record} (hr : R r r')
    (ha : ((sink.store now r).run s.world).1 = ((sink'.store now' r').run s'.world).1) :
    ((d.submit now r).run s).2.counters = ((d'.submit now' r').run s').2.counters := by
  by_cases hs : s.phase = .active
  · have hs' : s'.phase = .active := h.phase ▸ hs
    rcases h.pool_cases with ⟨hp, hp'⟩ | ⟨p, p', hp, hp', hq⟩
    · rw [submit_of_direct hd hs hp, submit_of_direct hd' hs' hp', run_deliver, run_deliver]
      change s.counters.countSubmitted.countDelivery ((sink.store now r).run s.world).1 =
        s'.counters.countSubmitted.countDelivery ((sink'.store now' r').run s'.world).1
      rw [hc, ha]
    · have ho := hq.queue.offer? hr
      cases hx : p.queue.offer? r <;> cases hx' : p'.queue.offer? r' <;> rw [hx, hx'] at ho
      · rw [submit_of_no_room hd hs hp hx, submit_of_no_room hd' hs' hp' hx']
        exact congrArg Dispatch.Counters.countDropped hc
      · cases ho
      · cases ho
      · rw [submit_of_offer hd hs hp hx, submit_of_offer hd' hs' hp' hx']
        exact congrArg Dispatch.Counters.countSubmitted hc
  · have hs' : s'.phase ≠ .active := h.phase ▸ hs
    rw [submit_of_shutDown hd hs, submit_of_shutDown hd' hs']
    exact congrArg Dispatch.Counters.countDropped hc

theorem corresponds_finish (hk : Keep R W sink sink') (now now' : Instant)
    (h : s.Corresponds R W s') :
    ((finish (liftSink sink) now).run s).2.Corresponds R W
      ((finish (liftSink sink') now').run s').2 := by
  rcases h.pool_cases with ⟨hp, hp'⟩ | ⟨p, p', hp, hp', hc⟩
  · rwa [finish_of_direct hp, finish_of_direct hp']
  · have hf := hc.inFlight
    cases hi : p.inFlight <;> cases hi' : p'.inFlight <;> rw [hi, hi'] at hf
    · rwa [finish_of_nil hp hi, finish_of_nil hp' hi']
    · cases hf
    · cases hf
    · cases hf with
      | cons hr hf =>
        rw [finish_of_cons hp hi, finish_of_cons hp' hi']
        exact { h with
          pool := .some { hc with inFlight := hf }
          world := hk.store now now' _ _ _ _ hr h.world }

theorem corresponds_work (hk : Keep R W sink sink') (now now' : Instant)
    (h : s.Corresponds R W s') (n : Nat) :
    ((work (liftSink sink) now n).run s).2.Corresponds R W
      ((work (liftSink sink') now' n).run s').2 := by
  induction n generalizing s s' with
  | zero => exact h.takeAll
  | succ n ih => exact ih (corresponds_finish hk now now' h.takeAll)

theorem corresponds_advance (hd : d.sink = some (liftSink sink))
    (hd' : d'.sink = some (liftSink sink')) (hk : Keep R W sink sink') (h : s.Corresponds R W s')
    (n : Nat) :
    ((d.advance now n).run s).2.Corresponds R W ((d'.advance now' n).run s').2 := by
  rw [advance, advance, hd, hd']
  exact corresponds_work hk now now' h n

theorem corresponds_drain (hk : Keep R W sink sink') (now now' : Instant) (grace : Grace)
    (h : s.Corresponds R W s') :
    ((drain (liftSink sink) now grace).run s).2.Corresponds R W
      ((drain (liftSink sink') now' grace).run s').2 := by
  have ht := corresponds_work hk now now'
    (h.withPool (f := fun p => { p with queue := p.queue.close }) fun _ _ hc =>
      { hc with queue := hc.queue.close }) grace.first
  have hu := corresponds_work hk now now'
    (ht.withPool (f := fun p => { p with cancelled := true }) fun _ _ hc =>
      { hc with cancelled := rfl }) grace.second
  rw [drain_eq rfl rfl, drain_eq rfl rfl, ht.isDrained, hu.isDrained]
  split
  · exact ht
  · split
    · exact hu
    · exact hu.withPool fun _ _ hc => { hc with queue := hc.queue.clear }

theorem corresponds_shutdown (hd : d.sink = some (liftSink sink))
    (hd' : d'.sink = some (liftSink sink')) (hk : Keep R W sink sink')
    (h : s.Corresponds R W s') :
    ((d.shutdown now grace).run s).2.Corresponds R W ((d'.shutdown now' grace).run s').2 := by
  by_cases hs : s.phase = .active
  · have hs' : s'.phase = .active := h.phase ▸ hs
    have hg : ({ s with phase := .draining } : State ω).Corresponds R W
        { s' with phase := .draining } :=
      { h with phase := rfl }
    have ht := corresponds_drain hk now now' grace hg
    rw [shutdown_of_active hd hs, shutdown_of_active hd' hs']
    exact ⟨rfl, ht.pool, hk.close _ _ ht.world⟩
  · have hs' : s'.phase ≠ .active := h.phase ▸ hs
    rwa [shutdown_of_shutDown hs, shutdown_of_shutDown hs']

end Dispatcher

end AuditTrail
