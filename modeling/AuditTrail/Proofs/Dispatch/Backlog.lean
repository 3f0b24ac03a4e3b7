import AuditTrail.Proofs.Dispatch.Closing

/-! # How many records wait

A record that the queue has taken waits there until a worker receives it, and stays with that worker
until it is done with. The room of the queue and the number of workers bound what is not done with,
and as long as a dispatcher is active only a full queue refuses a record.
-/

namespace AuditTrail.Dispatch

theorem Settings.workerCount_of_isPooled {settings : Settings} (h : settings.isPooled = true) :
    (settings.workerCount : Int) = min settings.poolSize Config.maxThreadpoolSize := by
  have hp : 0 < settings.poolSize := of_decide_eq_true h
  have hm : (0 : Int) < Config.maxThreadpoolSize := by decide
  unfold workerCount
  omega

theorem Settings.capacity_eq (settings : Settings) :
    settings.capacity = max 1 settings.maxQueueLength :=
  Nat.max_comm ..

namespace Threads

variable {s t : State} {es : List Event} {e : Event} {workers capacity : Nat}

namespace Event

@[simp] def receives? : Event → Option Ticket
  | .receive t => some t
  | _ => none

/-- The record that a worker is done with, having counted what became of it. -/
@[simp] def finishes? : Event → Option Ticket
  | .countRecord t => some t
  | _ => none

end Event

/-- The records that workers took from the queue, in its order. -/
def received (es : List Event) : List Ticket := es.filterMap Event.receives?

/-- The records that workers are done with. -/
def finished (es : List Event) : List Ticket := es.filterMap Event.finishes?

/-- The records of one list of which another has none with the same number. -/
def lacking (done : List Ticket) (ts : List Ticket) : List Ticket :=
  ts.filter fun t => !done.any (·.number == t.number)

/-- The records received and not yet finished. -/
def inHand (es : List Event) : List Ticket := lacking (finished es) (received es)

/-- The records accepted and not yet stored, failed or cancelled. -/
def backlog (es : List Event) : List Ticket :=
  lacking (ended .stored es ++ ended .failed es ++ ended .cancelled es) (accepted es)

theorem countP_received_snoc (es : List Event) (e : Event) (q : Ticket → Bool) :
    (received (es ++ [e])).countP q = (received es).countP q + (e.receives?.any q).toNat :=
  countP_filterMap_snoc ..

theorem countP_finished_snoc (es : List Event) (e : Event) (q : Ticket → Bool) :
    (finished (es ++ [e])).countP q = (finished es).countP q + (e.finishes?.any q).toNat :=
  countP_filterMap_snoc ..

theorem length_lacking_le {done ts : List Ticket} {n : Nat}
    (h : ∀ q : Ticket → Bool, ts.countP q ≤ done.countP q + n) : (lacking done ts).length ≤ n := by
  have hz : done.countP (fun t => !done.any (·.number == t.number)) = 0 := by
    rw [List.countP_eq_zero]
    intro t ht
    simp only [Bool.not_eq_true, Bool.not_eq_false', List.any_eq_true]
    exact ⟨t, ht, beq_self_eq_true _⟩
  have hq := h fun t => !done.any (·.number == t.number)
  rw [hz, Nat.zero_add, List.countP_eq_length_filter] at hq
  exact hq

/-- Whether a worker has a record, or may have been stopped while it had one. -/
@[simp] def Worker.keeps (q : Ticket → Bool) : Worker → Bool
  | .idle => false
  | .holding t | .cleared t | .storing t | .counting t _ | .dropping t => q t
  | .stopped => true

/-- Whether a worker knows what became of its record and has yet to count it. -/
@[simp] def Worker.reckons (q : Ticket → Bool) : Worker → Bool
  | .counting t _ | .dropping t => q t
  | _ => false

/-- Where the records are that the queue has taken. -/
structure Waiting (capacity : Nat) (es : List Event) (s : State) : Prop where
  capacity : s.queue.capacity = capacity
  isOpen : s.phase = .active → s.queue.isOpen = true
  queue : ∀ q, (accepted es).countP q = (received es).countP q + s.queue.items.countP q
  hands : ∀ q, (received es).countP q ≤
    (finished es).countP q + s.workers.countP (Worker.keeps q)
  fates : ∀ q, (finished es).countP q + s.workers.countP (Worker.reckons q) ≤
    (ended .stored es ++ ended .failed es ++ ended .cancelled es).countP q

theorem waiting_start (workers capacity : Nat) :
    Waiting capacity [] (start workers capacity) := by
  constructor <;> simp [start, accepted, received, finished, List.countP_replicate]

theorem capacity_step (h : Step s e t) : t.queue.capacity = s.queue.capacity := by
  cases h with
  | accept ho m => exact (Queue.offer?_eq_some_iff.mp ho).2.2.1
  | receive hr m => exact (Queue.take?_eq_some_iff.mp hr).2.1
  | _ => rfl

theorem isOpen_step (hc : Closing es s) (h : Step s e t)
    (ih : s.phase = .active → s.queue.isOpen = true) (ht : t.phase = .active) :
    t.queue.isOpen = true := by
  cases h with
  | accept ho m => exact (Queue.offer?_eq_some_iff.mp ho).2.2.2.trans (ih ht)
  | receive hr m => exact (Queue.take?_eq_some_iff.mp hr).2.2.trans (ih ht)
  | closeQueue m =>
    have hw : 0 < s.closers.countP Closer.waits := List.countP_pos_iff.mpr ⟨_, m.mem, rfl⟩
    have hr := hc.reports
    simp only [show s.phase = .active from ht, decide_true, Bool.toNat_true] at hr
    omega
  | win _ m | setClosed m => cases ht
  | _ => exact ih ht

theorem queue_step (h : Step s e t) (q : Ticket → Bool)
    (ih : (accepted es).countP q = (received es).countP q + s.queue.items.countP q) :
    (accepted (es ++ [e])).countP q =
      (received (es ++ [e])).countP q + t.queue.items.countP q := by
  rw [countP_accepted_snoc, countP_received_snoc, ih]
  cases h with
  | accept ho m =>
    rw [Queue.items_of_offer? ho, countP_concat]
    simp [Nat.add_assoc]
  | receive hr m =>
    rw [Queue.items_of_take? hr, countP_cons_toNat]
    simp
    omega
  | _ => simp [Queue.close]

theorem hands_step (h : Step s e t) (q : Ticket → Bool)
    (ih : (received es).countP q ≤ (finished es).countP q + s.workers.countP (Worker.keeps q)) :
    (received (es ++ [e])).countP q ≤
      (finished (es ++ [e])).countP q + t.workers.countP (Worker.keeps q) := by
  rw [countP_received_snoc, countP_finished_snoc]
  cases h with
  | receive _ m | spare _ m | cancel _ m | countCancelled m | beginStore m | endStore _ m
  | countDelivery m | stop _ _ m | abortIdle _ m =>
    have hm := m.countP (Worker.keeps q)
    simp at hm ⊢
    omega
  -- A worker that is stopped with a record is taken to keep it, whatever the choice of records.
  | @abortCleared r _ _ m | @abortCounting r _ _ m =>
    have hm := m.countP (Worker.keeps q)
    have hq := Bool.toNat_le (q r)
    simp at hm ⊢
    omega
  | _ => simpa using ih

theorem fates_step (h : Step s e t) (q : Ticket → Bool)
    (ih : (finished es).countP q + s.workers.countP (Worker.reckons q) ≤
      (ended .stored es ++ ended .failed es ++ ended .cancelled es).countP q) :
    (finished (es ++ [e])).countP q + t.workers.countP (Worker.reckons q) ≤
      (ended .stored (es ++ [e]) ++ ended .failed (es ++ [e]) ++
        ended .cancelled (es ++ [e])).countP q := by
  simp only [List.countP_append, countP_ended_snoc, countP_finished_snoc] at ih ⊢
  cases h with
  | receive _ m | spare _ m | cancel _ m | countCancelled m | beginStore m | countDelivery m
  | stop _ _ m | abortIdle _ m | abortCleared _ m | abortCounting _ m =>
    have hm := m.countP (Worker.reckons q)
    simp at hm ⊢
    omega
  | endStore d m =>
    have hm := m.countP (Worker.reckons q)
    cases d <;> simp at hm ⊢ <;> omega
  | _ => simpa using ih

theorem waiting_step (hc : Closing es s) (h : Step s e t) (ih : Waiting capacity es s) :
    Waiting capacity (es ++ [e]) t where
  capacity := (capacity_step h).trans ih.capacity
  isOpen := isOpen_step hc h ih.isOpen
  queue q := queue_step h q (ih.queue q)
  hands q := hands_step h q (ih.hands q)
  fates q := fates_step h q (ih.fates q)

theorem waiting_run (h : Run (start workers capacity) es s) : Waiting capacity es s := by
  induction h with
  | nil => exact waiting_start workers capacity
  | snoc h hs ih => exact waiting_step (closing_run h) hs ih

theorem length_inHand_le (h : Run (start workers capacity) es s) :
    (inHand es).length ≤ workers := by
  refine length_lacking_le fun q => ?_
  have hk : s.workers.countP (Worker.keeps q) ≤ workers :=
    workers_length_run h ▸ List.countP_le_length
  have := (waiting_run h).hands q
  omega

theorem length_backlog_le (h : Run (start workers capacity) es s) :
    (backlog es).length ≤ capacity + workers := by
  have hw := waiting_run h
  refine length_lacking_le fun q => ?_
  have hq : s.queue.items.countP q ≤ capacity :=
    Nat.le_trans List.countP_le_length (hw.capacity ▸ s.queue.length_le)
  have hk : s.workers.countP (Worker.keeps q) ≤ workers :=
    workers_length_run h ▸ List.countP_le_length
  have := hw.queue q
  have := hw.hands q
  have := hw.fates q
  omega

/-- An active dispatcher refuses a record only when its queue is full. -/
theorem queue_of_refused {r : Ticket} (h : Run (start workers capacity) es s) (hs : Step s e t)
    (hr : e.decides? .refused = some r) (ha : s.phase = .active) :
    s.queue.items.length = capacity := by
  have hw := waiting_run h
  cases hs with
  | turnAway hn m => exact absurd ha hn
  | refuse ho m =>
    have hl := s.queue.length_le
    rcases (Queue.offer?_eq_none_iff _ _).mp ho with hc | hf
    · rw [hw.isOpen ha] at hc
      cases hc
    · rw [hw.capacity] at hl hf
      exact Nat.le_antisymm hl hf
  | endStore d m => cases d <;> simp at hr
  | _ => simp at hr

theorem backlog_of_run {settings : Settings} (hp : settings.isPooled = true)
    (h : Run (start settings.workerCount settings.capacity) es s) :
    (settings.workerCount : Int) = min settings.poolSize Config.maxThreadpoolSize ∧
    s.queue.items.length ≤ max 1 settings.maxQueueLength ∧
    (inHand es).length ≤ settings.workerCount ∧
    (backlog es).length ≤ max 1 settings.maxQueueLength + settings.workerCount ∧
    ∀ e r t, Step s e t → e.decides? .refused = some r → s.phase = .active →
      s.queue.items.length = max 1 settings.maxQueueLength := by
  rw [← settings.capacity_eq]
  refine ⟨settings.workerCount_of_isPooled hp, ?_, length_inHand_le h, length_backlog_le h, ?_⟩
  · exact (waiting_run h).capacity ▸ s.queue.length_le
  · intro e r t hs hr ha
    exact queue_of_refused h hs hr ha

/-- A queue that is asked to hold nothing has room for one record. With one worker at its record and
one record waiting, a third is refused. -/
theorem backlog_of_run_smallest_queue :
    ∃ es s r t, Run (start 1 1) es s ∧ Step s (.refuse r) t ∧ s.phase = .active ∧
      (inHand es).length = 1 ∧ (backlog es).length = 2 ∧ s.queue.items.length = 1 := by
  let r : Record := { category := .authenticated, created := ⟨0, 0⟩ }
  let a : Ticket := ⟨0, r⟩
  let b : Ticket := ⟨1, r⟩
  let c : Ticket := ⟨2, r⟩
  let first : List Event := [.call a, .enter a, .accept a, .receive a, .spare a]
  have h₁ : Run (start 1 1) first
      { queue := { capacity := 1 }, callers := [.counting a true], workers := [.cleared a] } :=
    ((((Run.nil.snoc (.call r)).snoc (.enter rfl (.here _))).snoc
      (.accept rfl (.here _))).snoc (.receive rfl (.here _))).snoc (.spare rfl (.here _))
  let s : State :=
    { queue := { capacity := 1, items := [b], length_le := Nat.le_refl 1 }
      callers := [.counting a true, .counting b true, .sending c]
      workers := [.cleared a] }
  let all : List Event := first ++ [.call b, .enter b, .accept b, .call c, .enter c]
  have h₂ : Run (start 1 1) all s :=
    ((((h₁.snoc (.call r)).snoc (.enter rfl (.there _ (.here _)))).snoc
      (.accept rfl (.there _ (.here _)))).snoc (.call r)).snoc
        (.enter rfl (.there _ (.there _ (.here _))))
  have hs : Step s (.refuse c) _ := .refuse rfl (.there _ (.there _ (.here _)))
  have hb := @backlog_of_run _ _ { poolSize := 1, maxQueueLength := 0 } rfl h₂
  exact ⟨all, s, c, _, h₂, hs, rfl, rfl, rfl, hb.2.2.2.2 _ _ _ hs rfl rfl⟩

end Threads

end AuditTrail.Dispatch
