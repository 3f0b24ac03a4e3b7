import AuditTrail.Log.Basic
import AuditTrail.Proofs.Dispatch.Operations
import AuditTrail.Sink.Storage

/-! # Logs that write on the caller's thread

A log that has a storage sink and no workers writes the records of a report one after the other,
each as a document of its own, and counts each by the answer of the store.
-/

namespace AuditTrail

/-! ## Answers of a store -/

/-- What the answer of a store means for the delivery of a record. -/
@[simp] def Storage.delivery (g : Storage) : Except Error Unit → Delivery
  | .ok _ => .stored
  | .error e => .failed (g.refusal e)

theorem Storage.run_store {σ : Type} (g : Storage) (store : DocumentStore σ) (now : Instant)
    (r : Record) (s : σ) :
    ((g.sink store).store now r).run s =
      (g.delivery ((store.write (g.document now r)).run s).1,
        ((store.write (g.document now r)).run s).2) := by
  simp only [sink, run_bind]
  rcases (store.write (g.document now r)).run s with ⟨_ | _, _⟩ <;> rfl

/-- What a store was asked to write, and what it answered, in order. -/
abbrev Journal := List (Document × Except Error Unit)

namespace Journal

def documents (j : Journal) : List Document := j.map Prod.fst

def accepted (j : Journal) : Nat := j.countP fun e => e.2.isOk

def refused (j : Journal) : Nat := j.countP fun e => !e.2.isOk

end Journal

/-- A store that also keeps a journal. -/
def DocumentStore.journaled {ω : Type} (store : DocumentStore ω) : DocumentStore (ω × Journal) where
  write d s :=
    let (answer, w) := store.write d s.1
    (answer, w, s.2 ++ [(d, answer)])

/-- Counts records that are turned away. -/
def Dispatch.Counters.countDroppedBy (c : Dispatch.Counters) (n : Nat) : Dispatch.Counters :=
  { c with dropped := c.dropped + n }

theorem Dispatch.Counters.countDroppedBy_add (c : Dispatch.Counters) (m n : Nat) :
    (c.countDroppedBy m).countDroppedBy n = c.countDroppedBy (m + n) := by
  simp only [countDroppedBy, Nat.add_assoc]

namespace Log

open Dispatch (Counters)

/-! ## Reports to any log -/

section

variable {ω : Type} {log : Log ω} {sink : Sink (State ω)} {s : State ω} {now : Instant}

theorem run_liftWorld {α : Type} (x : StateM ω α) (s : State ω) :
    (liftWorld x).run s =
      ((x.run s.world.world).1,
        { s with world := { s.world with world := (x.run s.world.world).2 } }) :=
  rfl

theorem handle_eq (hl : log.dispatcher.sink = some sink) (now : Instant) (call : Call) :
    (log.handle now call).run s =
      (log.submitAll now (log.recorder.records s.world.flags now call)).run s := by
  simp only [handle, Dispatcher.isEnabled, hl]
  rfl

theorem submitAll_of_shutDown (hl : log.dispatcher.sink = some sink) (hs : s.phase ≠ .active)
    (rs : List Record) :
    (log.submitAll now rs).run s = ((), s.count (·.countDroppedBy rs.length)) := by
  induction rs generalizing s with
  | nil => rfl
  | cons r rs ih =>
    have ih := ih (s := s.count (·.countDropped)) hs
    rw [submitAll, run_bind, Dispatcher.submit_of_shutDown hl hs, ih, List.length_cons]
    simp only [Dispatch.State.count, Counters.countDropped, Counters.countDroppedBy]
    rw [Nat.add_assoc, Nat.add_comm 1]

end

/-! ## Reports to a log over a store -/

variable {ω : Type} {log : Log (ω × Journal)} {store : DocumentStore ω} {g : Storage}
variable {s t u : State (ω × Journal)} {new new' : Journal}

/-- What a log does by writing documents: a journal goes on, and the counters with it. -/
structure Wrote (new : Journal) (s t : State (ω × Journal)) : Prop where
  phase : t.phase = s.phase
  pool : t.pool = none
  journal : t.world.world.2 = s.world.world.2 ++ new
  submitted : t.counters.submitted = s.counters.submitted + new.length
  stored : t.counters.stored = s.counters.stored + new.accepted
  failed : t.counters.failed = s.counters.failed + new.refused
  dropped : t.counters.dropped = s.counters.dropped

theorem Wrote.refl (hp : s.pool = none) : Wrote [] s s where
  phase := rfl
  pool := hp
  journal := (List.append_nil _).symm
  submitted := rfl
  stored := rfl
  failed := rfl
  dropped := rfl

theorem Wrote.trans (h : Wrote new s t) (h' : Wrote new' t u) : Wrote (new ++ new') s u where
  phase := h'.phase.trans h.phase
  pool := h'.pool
  journal := by rw [h'.journal, h.journal, List.append_assoc]
  submitted := by rw [h'.submitted, h.submitted, List.length_append, Nat.add_assoc]
  stored := by
    rw [h'.stored, h.stored, Journal.accepted, Journal.accepted, Journal.accepted,
      List.countP_append, Nat.add_assoc]
  failed := by
    rw [h'.failed, h.failed, Journal.refused, Journal.refused, Journal.refused,
      List.countP_append, Nat.add_assoc]
  dropped := h'.dropped.trans h.dropped

theorem run_write_journaled (d : Document) (x : ω × Journal) :
    (store.journaled.write d).run x =
      (((store.write d).run x.1).1, ((store.write d).run x.1).2,
        x.2 ++ [(d, ((store.write d).run x.1).1)]) :=
  rfl

theorem submit_wrote (hl : log.dispatcher.sink = some (g.sink (liftStore store.journaled)))
    (ha : s.phase = .active) (hp : s.pool = none) (now : Instant) (r : Record) :
    ∃ answer, Wrote [(g.document now r, answer)] s ((log.dispatcher.submit now r).run s).2 ∧
      ((log.dispatcher.submit now r).run s).2.world.flags = s.world.flags := by
  obtain ⟨⟨answer, w⟩, hw⟩ : ∃ x, (store.write (g.document now r)).run
      (s.count (·.countSubmitted)).world.world.1 = x := ⟨_, rfl⟩
  rw [Dispatcher.submit_of_direct hl ha hp, Dispatcher.run_deliver, Storage.run_store, liftStore,
    run_liftWorld, run_write_journaled, hw]
  refine ⟨answer, ?_, rfl⟩
  cases answer <;> exact ⟨rfl, hp, rfl, rfl, rfl, rfl, rfl⟩

theorem submitAll_wrote (hl : log.dispatcher.sink = some (g.sink (liftStore store.journaled)))
    (ha : s.phase = .active) (hp : s.pool = none) (now : Instant) (rs : List Record) :
    ∃ new : Journal, new.documents = rs.map (g.document now) ∧
      Wrote new s ((log.submitAll now rs).run s).2 ∧
      ((log.submitAll now rs).run s).2.world.flags = s.world.flags := by
  induction rs generalizing s with
  | nil => exact ⟨[], rfl, .refl hp, rfl⟩
  | cons r rs ih =>
    rw [submitAll, run_bind]
    obtain ⟨answer, h, hf⟩ := submit_wrote hl ha hp now r
    obtain ⟨new, hd, h', hf'⟩ := ih (h.phase.trans ha) h.pool
    refine ⟨(g.document now r, answer) :: new, ?_, h.trans h', hf'.trans hf⟩
    rw [List.map_cons, ← hd]
    rfl

end Log

end AuditTrail
