import AuditTrail.Dispatch.Threads

/-! # Where records are

Every record submitted is with its caller, refused, waiting in the queue, with a worker, or has
met its fate, and the counters say how many have met which. Counting is done for any choice of
records, so that it serves for all of them together and for each one alone.
-/

namespace AuditTrail.Dispatch.Threads

variable {s t : State} {es : List Event} {e : Event}

/-! ## What steps add to the lists of records -/

section Snoc

variable (es e) (q : Ticket → Bool)

theorem filterMap_snoc {α β : Type} (g : α → Option β) (es : List α) (e : α) :
    (es ++ [e]).filterMap g = es.filterMap g ++ (g e).toList := by
  cases h : g e <;> simp [h]

theorem countP_toList {β : Type} (q : β → Bool) (o : Option β) :
    o.toList.countP q = (o.any q).toNat := by
  cases o with
  | none => rfl
  | some b => cases hq : q b <;> simp [hq]

theorem countP_filterMap_snoc {α β : Type} (g : α → Option β) (q : β → Bool) (es : List α)
    (e : α) :
    ((es ++ [e]).filterMap g).countP q = (es.filterMap g).countP q + ((g e).any q).toNat := by
  rw [filterMap_snoc, List.countP_append, countP_toList]

theorem length_filterMap_snoc {α β : Type} (g : α → Option β) (es : List α) (e : α) :
    ((es ++ [e]).filterMap g).length = (es.filterMap g).length + (g e).isSome.toNat := by
  rw [filterMap_snoc, List.length_append]
  cases g e <;> rfl

@[simp] theorem countP_submitted_snoc :
    (submitted (es ++ [e])).countP q = (submitted es).countP q + (e.submits?.any q).toNat :=
  countP_filterMap_snoc ..

@[simp] theorem countP_accepted_snoc :
    (accepted (es ++ [e])).countP q = (accepted es).countP q + (e.accepts?.any q).toNat :=
  countP_filterMap_snoc ..

@[simp] theorem countP_ended_snoc (f : Fate) :
    (ended f (es ++ [e])).countP q = (ended f es).countP q + ((e.decides? f).any q).toNat :=
  countP_filterMap_snoc ..

@[simp] theorem countP_storeCalls_snoc :
    (storeCalls (es ++ [e])).countP q = (storeCalls es).countP q + (e.beginsStore?.any q).toNat :=
  countP_filterMap_snoc ..

@[simp] theorem length_accepted_snoc :
    (accepted (es ++ [e])).length = (accepted es).length + e.accepts?.isSome.toNat :=
  length_filterMap_snoc ..

@[simp] theorem length_ended_snoc (f : Fate) :
    (ended f (es ++ [e])).length = (ended f es).length + (e.decides? f).isSome.toNat :=
  length_filterMap_snoc ..

end Snoc

/-! ## Stages -/

/-- Whether a call has a record that is neither taken nor refused yet. -/
@[simp] def Caller.holds (q : Ticket → Bool) : Caller → Bool
  | .entering t | .sending t => q t
  | .counting _ _ | .returned _ => false

@[simp] def Caller.counts (taken : Bool) : Caller → Bool
  | .counting _ b => b == taken
  | _ => false

/-- Whether a worker has a record whose fate is open. -/
@[simp] def Worker.holds (q : Ticket → Bool) : Worker → Bool
  | .holding t | .cleared t | .storing t => q t
  | _ => false

@[simp] def Worker.stores (q : Ticket → Bool) : Worker → Bool
  | .storing t => q t
  | _ => false

@[simp] def Worker.counts (f : Fate) : Worker → Bool
  | .counting _ d => Fate.ofDelivery d = f
  | .dropping _ => f = .cancelled
  | _ => false

/-- The accounts of a run. Those of workers are kept as long as somebody looks after them. -/
structure Accounts (es : List Event) (s : State) : Prop where
  callers : ∀ q, (submitted es).countP q =
    s.callers.countP (Caller.holds q) + (ended .refused es).countP q + (accepted es).countP q
  workers : s.abandoned = false → ∀ q, (accepted es).countP q =
    s.queue.items.countP q + s.workers.countP (Worker.holds q) +
      (ended .stored es).countP q + (ended .failed es).countP q + (ended .cancelled es).countP q
  calls : ∀ q, (storeCalls es).countP q =
    s.workers.countP (Worker.stores q) + (ended .stored es).countP q +
      (ended .failed es).countP q
  submitted : s.counters.submitted + s.callers.countP (Caller.counts true) =
    (accepted es).length
  stored : s.counters.stored + s.workers.countP (Worker.counts .stored) =
    (ended .stored es).length
  failed : s.abandoned = false →
    s.counters.failed + s.workers.countP (Worker.counts .failed) = (ended .failed es).length
  dropped : s.counters.dropped + s.callers.countP (Caller.counts false) +
      s.workers.countP (Worker.counts .cancelled) =
    (ended .refused es).length + (ended .cancelled es).length

theorem accounts_start (workers capacity : Nat) : Accounts [] (start workers capacity) := by
  constructor <;> simp [start, Threads.submitted, accepted, ended, storeCalls, Worker.holds,
    Worker.stores, Worker.counts, List.countP_replicate]

theorem countP_concat {α : Type} (p : α → Bool) (l : List α) (a : α) :
    (l ++ [a]).countP p = l.countP p + (p a).toNat := by
  cases h : p a <;> simp [h]

theorem countP_cons_toNat {α : Type} (p : α → Bool) (a : α) (l : List α) :
    (a :: l).countP p = l.countP p + (p a).toNat := by
  cases h : p a <;> simp [h]

theorem callers_step (h : Step s e t) (q : Ticket → Bool)
    (ih : (submitted es).countP q = s.callers.countP (Caller.holds q) +
      (ended .refused es).countP q + (accepted es).countP q) :
    (submitted (es ++ [e])).countP q = t.callers.countP (Caller.holds q) +
      (ended .refused (es ++ [e])).countP q + (accepted (es ++ [e])).countP q := by
  rw [countP_submitted_snoc, countP_ended_snoc, countP_accepted_snoc, ih]
  cases h with
  | call r =>
    simp only [countP_concat]
    simp
    omega
  | enter _ m | turnAway _ m | accept _ m | refuse _ m | countTaken m | countRefused m =>
    have hm := m.countP (Caller.holds q)
    simp at hm ⊢
    omega
  | endStore d m => cases d <;> simp
  | _ => simp

theorem workers_step (h : Step s e t) (q : Ticket → Bool) (ht : t.abandoned = false)
    (ih : s.abandoned = false → (accepted es).countP q =
      s.queue.items.countP q + s.workers.countP (Worker.holds q) +
        (ended .stored es).countP q + (ended .failed es).countP q +
        (ended .cancelled es).countP q) :
    (accepted (es ++ [e])).countP q =
      t.queue.items.countP q + t.workers.countP (Worker.holds q) +
        (ended .stored (es ++ [e])).countP q + (ended .failed (es ++ [e])).countP q +
        (ended .cancelled (es ++ [e])).countP q := by
  simp only [countP_accepted_snoc, countP_ended_snoc]
  cases h with
  | accept ho m =>
    rw [ih ht, Queue.items_of_offer? ho, countP_concat]
    simp
    omega
  | receive hr m =>
    have hm := m.countP (Worker.holds q)
    rw [ih ht, Queue.items_of_take? hr, countP_cons_toNat]
    simp at hm ⊢
    omega
  | spare _ m | cancel _ m | countCancelled m | beginStore m | countDelivery m | stop _ _ m =>
    have hm := m.countP (Worker.holds q)
    rw [ih ht]
    simp at hm ⊢
    omega
  | endStore d m =>
    have hm := m.countP (Worker.holds q)
    rw [ih ht]
    cases d <;> simp at hm ⊢ <;> omega
  | abortIdle ha m | abortCleared ha m | abortCounting ha m => simp [ha] at ht
  | giveUp m => simp at ht
  | _ => simpa [Queue.close] using ih ht

theorem calls_step (h : Step s e t) (q : Ticket → Bool)
    (ih : (storeCalls es).countP q = s.workers.countP (Worker.stores q) +
      (ended .stored es).countP q + (ended .failed es).countP q) :
    (storeCalls (es ++ [e])).countP q = t.workers.countP (Worker.stores q) +
      (ended .stored (es ++ [e])).countP q + (ended .failed (es ++ [e])).countP q := by
  rw [countP_storeCalls_snoc, countP_ended_snoc, countP_ended_snoc, ih]
  cases h with
  | receive _ m | spare _ m | cancel _ m | countCancelled m | beginStore m | countDelivery m
  | stop _ _ m | abortIdle _ m | abortCleared _ m | abortCounting _ m =>
    have hm := m.countP (Worker.stores q)
    simp at hm ⊢
    omega
  | endStore d m =>
    have hm := m.countP (Worker.stores q)
    cases d <;> simp at hm ⊢ <;> omega
  | _ => simp

theorem submitted_step (h : Step s e t)
    (ih : s.counters.submitted + s.callers.countP (Caller.counts true) = (accepted es).length) :
    t.counters.submitted + t.callers.countP (Caller.counts true) =
      (accepted (es ++ [e])).length := by
  rw [length_accepted_snoc, ← ih]
  cases h with
  | call r => simp
  | enter _ m | turnAway _ m | accept _ m | refuse _ m | countTaken m | countRefused m =>
    have hm := m.countP (Caller.counts true)
    simp [Counters.countSubmitted, Counters.countDropped] at hm ⊢
    omega
  | @countDelivery _ d _ m => cases d <;> simp [Counters.countDelivery]
  | _ => simp [Counters.countDropped]

theorem stored_step (h : Step s e t)
    (ih : s.counters.stored + s.workers.countP (Worker.counts .stored) =
      (ended .stored es).length) :
    t.counters.stored + t.workers.countP (Worker.counts .stored) =
      (ended .stored (es ++ [e])).length := by
  rw [length_ended_snoc, ← ih]
  cases h with
  | receive _ m | spare _ m | cancel _ m | countCancelled m | beginStore m | stop _ _ m
  | abortIdle _ m | abortCleared _ m | abortCounting _ m =>
    have hm := m.countP (Worker.counts .stored)
    simp [Counters.countDropped] at hm ⊢
    omega
  | endStore d m | @countDelivery _ d _ m =>
    have hm := m.countP (Worker.counts .stored)
    cases d <;> simp [Counters.countDelivery] at hm ⊢ <;> omega
  | _ => simp [Counters.countDropped, Counters.countSubmitted]

theorem failed_step (h : Step s e t) (ht : t.abandoned = false)
    (ih : s.abandoned = false → s.counters.failed + s.workers.countP (Worker.counts .failed) =
      (ended .failed es).length) :
    t.counters.failed + t.workers.countP (Worker.counts .failed) =
      (ended .failed (es ++ [e])).length := by
  rw [length_ended_snoc]
  cases h with
  | receive _ m | spare _ m | cancel _ m | countCancelled m | beginStore m | stop _ _ m =>
    have hm := m.countP (Worker.counts .failed)
    rw [← ih ht]
    simp [Counters.countDropped] at hm ⊢
    omega
  | endStore d m | @countDelivery _ d _ m =>
    have hm := m.countP (Worker.counts .failed)
    rw [← ih ht]
    cases d <;> simp [Counters.countDelivery] at hm ⊢ <;> omega
  | abortIdle ha m | abortCleared ha m | abortCounting ha m => simp [ha] at ht
  | giveUp m => simp at ht
  | _ => simpa [Counters.countDropped, Counters.countSubmitted] using ih ht

theorem dropped_step (h : Step s e t)
    (ih : s.counters.dropped + s.callers.countP (Caller.counts false) +
        s.workers.countP (Worker.counts .cancelled) =
      (ended .refused es).length + (ended .cancelled es).length) :
    t.counters.dropped + t.callers.countP (Caller.counts false) +
        t.workers.countP (Worker.counts .cancelled) =
      (ended .refused (es ++ [e])).length + (ended .cancelled (es ++ [e])).length := by
  rw [length_ended_snoc, length_ended_snoc]
  cases h with
  | call r => simpa using ih
  | enter _ m | turnAway _ m | accept _ m | refuse _ m | countTaken m | countRefused m =>
    have hm := m.countP (Caller.counts false)
    simp [Counters.countSubmitted, Counters.countDropped] at hm ⊢
    omega
  | receive _ m | spare _ m | cancel _ m | countCancelled m | beginStore m | stop _ _ m
  | abortIdle _ m | abortCleared _ m | abortCounting _ m =>
    have hm := m.countP (Worker.counts .cancelled)
    simp [Counters.countDropped] at hm ⊢
    omega
  | endStore d m | @countDelivery _ d _ m =>
    have hm := m.countP (Worker.counts .cancelled)
    cases d <;> simp [Counters.countDelivery] at hm ⊢ <;> omega
  | _ => simpa using ih

theorem accounts_step (h : Step s e t) (ih : Accounts es s) : Accounts (es ++ [e]) t where
  callers q := callers_step h q (ih.callers q)
  workers ht q := workers_step h q ht fun hs => ih.workers hs q
  calls q := calls_step h q (ih.calls q)
  submitted := submitted_step h ih.submitted
  stored := stored_step h ih.stored
  failed ht := failed_step h ht ih.failed
  dropped := dropped_step h ih.dropped

theorem accounts_run {workers capacity : Nat} (h : Run (start workers capacity) es s) :
    Accounts es s := by
  induction h with
  | nil => exact accounts_start workers capacity
  | snoc _ hs ih => exact accounts_step hs ih

end AuditTrail.Dispatch.Threads
