import AuditTrail.Proofs.Dispatch.Accounting

/-! # Shutting down

One shutdown at most waits for the workers, reports once and closes the sink once. A report that
all workers have stopped is lasting: nobody takes, stores or sends a record afterwards.
-/

namespace AuditTrail.Dispatch.Threads

variable {s t : State} {es : List Event} {e : Event}

namespace Event

@[simp] def isReport : Event → Bool
  | .drained _ => true
  | _ => false

@[simp] def isClose : Event → Bool
  | .closeSink => true
  | _ => false

@[simp] def isEnd : Event → Bool
  | .setClosed => true
  | _ => false

end Event

/-- Whether a shutdown has gone ahead and has yet to report. -/
@[simp] def Closer.waits : Closer → Bool
  | .closing | .waiting | .cancelling | .waitingAgain => true
  | _ => false

@[simp] def Closer.hasReported : Closer → Bool
  | .drained _ => true
  | _ => false

@[simp] def Closer.leaves : Closer → Bool
  | .leaving => true
  | _ => false

/-- One shutdown at most goes ahead, and it does so step by step. -/
structure Closing (es : List Event) (s : State) : Prop where
  reports : es.countP Event.isReport + s.closers.countP Closer.waits +
    (decide (s.phase = .active)).toNat = 1
  closes : es.countP Event.isClose + s.closers.countP Closer.hasReported =
    es.countP Event.isReport
  ends : es.countP Event.isEnd + s.closers.countP Closer.leaves = es.countP Event.isClose

theorem closing_start (workers capacity : Nat) : Closing [] (start workers capacity) := by
  constructor <;> simp [start]

theorem not_active_of_leaving (ih : Closing es s) (h : Closer.leaving ∈ s.closers) :
    s.phase ≠ .active := by
  intro ha
  have hl : 0 < s.closers.countP Closer.leaves := List.countP_pos_iff.mpr ⟨_, h, rfl⟩
  have hr := ih.reports
  have hc := ih.closes
  have he := ih.ends
  simp only [ha, decide_true, Bool.toNat_true] at hr
  omega

theorem closing_step (h : Step s e t) (ih : Closing es s) : Closing (es ++ [e]) t := by
  obtain ⟨hr, hc, he⟩ := id ih
  constructor <;> simp only [countP_concat]
  · cases h with
    | shutdown => simpa [countP_concat] using hr
    | win ha m =>
      have hm := m.countP Closer.waits
      simp only [ha, decide_true, Bool.toNat_true] at hr
      simp at hm ⊢
      omega
    | setClosed m =>
      have hm := m.countP Closer.waits
      have ha := not_active_of_leaving ih m.mem
      simp only [ha, decide_false, Bool.toNat_false] at hr
      simp at hm ⊢
      omega
    | lose _ m | closeQueue m | join _ m | timeOut m | setCancelled m | joinAgain _ m | giveUp m
    | closeSink m =>
      have hm := m.countP Closer.waits
      simp at hm ⊢
      omega
    | _ => simpa using hr
  · cases h with
    | shutdown => simpa [countP_concat] using hc
    | win _ m | lose _ m | closeQueue m | join _ m | timeOut m | setCancelled m | joinAgain _ m
    | giveUp m | closeSink m | setClosed m =>
      have hm := m.countP Closer.hasReported
      simp at hm ⊢
      omega
    | _ => simpa using hc
  · cases h with
    | shutdown => simpa [countP_concat] using he
    | win _ m | lose _ m | closeQueue m | join _ m | timeOut m | setCancelled m | joinAgain _ m
    | giveUp m | closeSink m | setClosed m =>
      have hm := m.countP Closer.leaves
      simp at hm ⊢
      omega
    | _ => simpa using he

theorem closing_run {workers capacity : Nat} (h : Run (start workers capacity) es s) :
    Closing es s := by
  induction h with
  | nil => exact closing_start workers capacity
  | snoc _ hs ih => exact closing_step hs ih

theorem abandoned_iff_mem {workers capacity : Nat} (h : Run (start workers capacity) es s) :
    s.abandoned = true ↔ .drained false ∈ es := by
  induction h with
  | nil => simp [start]
  | snoc _ hs ih => cases hs <;> simp [ih]

theorem not_abandoned_of_drained {workers capacity : Nat}
    (h : Run (start workers capacity) es s) (hd : .drained true ∈ es) : s.abandoned = false := by
  rw [Bool.eq_false_iff, Ne, abandoned_iff_mem h]
  intro hf
  obtain ⟨before, after, rfl⟩ := List.append_of_mem hd
  have hr := (closing_run h).reports
  have hp : 0 < (before ++ after).countP Event.isReport :=
    List.countP_pos_iff.mpr ⟨.drained false, by simpa using hf, rfl⟩
  simp only [List.countP_append, countP_cons_toNat, Event.isReport, Bool.toNat_true] at hr hp
  omega

/-! ## Workers that have stopped -/

theorem workers_length_step (h : Step s e t) : t.workers.length = s.workers.length := by
  cases h with
  | receive _ m | spare _ m | cancel _ m | countCancelled m | beginStore m | endStore _ m
  | countDelivery m | stop _ _ m | abortIdle _ m | abortCleared _ m | abortCounting _ m =>
    exact m.length_eq
  | _ => rfl

theorem workers_length_run {workers capacity : Nat} (h : Run (start workers capacity) es s) :
    s.workers.length = workers := by
  induction h with
  | nil => simp [start]
  | snoc _ hs ih => rw [workers_length_step hs, ih]

/-- What holds once a worker has stopped, and once all have. -/
structure Stopping (es : List Event) (s : State) : Prop where
  queue : s.abandoned = false → .stopped ∈ s.workers →
    s.queue.isOpen = false ∧ s.queue.items = []
  report : .drained true ∈ es → ∀ w ∈ s.workers, w = .stopped

theorem stopping_start (workers capacity : Nat) : Stopping [] (start workers capacity) := by
  constructor <;> simp [start, List.mem_replicate]

theorem stopped_queue_step (h : Step s e t)
    (ih : s.abandoned = false → .stopped ∈ s.workers →
      s.queue.isOpen = false ∧ s.queue.items = [])
    (ha : t.abandoned = false) (hw : .stopped ∈ t.workers) :
    t.queue.isOpen = false ∧ t.queue.items = [] := by
  cases h with
  | @accept t' _ _ ho m =>
    have hn := (s.queue.offer?_eq_none_iff t').mpr (Or.inl (ih ha hw).1)
    rw [ho] at hn
    cases hn
  | receive hr m =>
    rcases m.mem_or hw with hf | hw
    · cases hf
    · have hi := (ih ha hw).2
      rw [Queue.items_of_take? hr] at hi
      cases hi
  | spare _ m | cancel _ m | countCancelled m | beginStore m | endStore _ m | countDelivery m =>
    rcases m.mem_or hw with hf | hw
    · cases hf
    · exact ih ha hw
  | stop hc he m => exact ⟨hc, (Queue.take?_eq_none_iff _).mp he⟩
  | abortIdle hf m | abortCleared hf m | abortCounting hf m => simp [hf] at ha
  | giveUp m => cases ha
  | closeQueue m => exact ⟨rfl, (ih ha hw).2⟩
  | _ => exact ih ha hw

theorem stopped_report_step (h : Step s e t)
    (ih : .drained true ∈ es → ∀ w ∈ s.workers, w = .stopped)
    (hd : .drained true ∈ es ++ [e]) : ∀ w ∈ t.workers, w = .stopped := by
  rw [List.mem_append, List.mem_singleton] at hd
  cases h with
  | receive _ m | spare _ m | cancel _ m | countCancelled m | beginStore m | endStore _ m
  | countDelivery m | stop _ _ m | abortIdle _ m | abortCleared _ m | abortCounting _ m =>
    have hf := ih (hd.resolve_right nofun) _ m.mem
    cases hf
  | join hw m | joinAgain hw m => exact hw
  | _ => exact ih (hd.resolve_right nofun)

theorem stopping_run {workers capacity : Nat} (h : Run (start workers capacity) es s) :
    Stopping es s := by
  induction h with
  | nil => exact stopping_start workers capacity
  | snoc _ hs ih => exact ⟨stopped_queue_step hs ih.queue, stopped_report_step hs ih.report⟩

theorem queue_of_drained {workers capacity : Nat} (hw : 0 < workers)
    (h : Run (start workers capacity) es s) (hd : .drained true ∈ es) :
    s.queue.isOpen = false ∧ s.queue.items = [] := by
  have hl := workers_length_run h
  obtain ⟨w, hm⟩ := List.exists_mem_of_length_pos (l := s.workers) (by omega)
  have hs := (stopping_run h).report hd w hm
  exact (stopping_run h).queue (not_abandoned_of_drained h hd) (hs ▸ hm)

/-! ## Closing the sink -/

theorem drained_of_closeSink {workers capacity : Nat} (h : Run (start workers capacity) es s)
    (ha : s.abandoned = false) (hc : .closeSink ∈ es) : .drained true ∈ es := by
  have hp : 0 < es.countP Event.isClose := List.countP_pos_iff.mpr ⟨_, hc, rfl⟩
  have hr : 0 < es.countP Event.isReport := by
    have := (closing_run h).closes
    omega
  obtain ⟨e, he, hk⟩ := List.countP_pos_iff.mp hr
  cases e with
  | drained all =>
    cases all with
    | true => exact he
    | false => simp [(abandoned_iff_mem h).mpr he] at ha
  | _ => cases hk

theorem not_isStore_of_stopped (h : Step s e t) (hw : ∀ w ∈ s.workers, w = .stopped) :
    e.isStore = false := by
  cases h with
  | beginStore m | endStore _ m =>
    have hf := hw _ m.mem
    cases hf
  | _ => rfl

/-- As long as no worker is given up, the sink is not called once it is closed. -/
theorem stores_before_close {workers capacity : Nat} (h : Run (start workers capacity) es s)
    (ha : s.abandoned = false) :
    es.Pairwise fun a b => a = .closeSink → b.isStore = false := by
  induction h with
  | nil => exact List.Pairwise.nil
  | @snoc es s e t h hs ih =>
    have hb : s.abandoned = false := by
      rw [Bool.eq_false_iff, Ne, abandoned_iff_mem h]
      rw [Bool.eq_false_iff, Ne, abandoned_iff_mem (h.snoc hs)] at ha
      exact fun hm => ha (List.mem_append_left _ hm)
    refine List.pairwise_append.mpr ⟨ih hb, List.pairwise_singleton .., ?_⟩
    rintro _ hm b hb' rfl
    rw [List.mem_singleton.mp hb']
    exact not_isStore_of_stopped hs ((stopping_run h).report (drained_of_closeSink h hb hm))

/-- When all shutdowns have returned after a report, the sink has been closed once. -/
theorem countP_isClose_of_drained {workers capacity : Nat}
    (h : Run (start workers capacity) es s) (hd : .drained true ∈ es)
    (hr : ∀ c ∈ s.closers, c = .returned) : es.countP Event.isClose = 1 := by
  have hc := closing_run h
  have hn : s.closers.countP Closer.waits = 0 ∧ s.closers.countP Closer.hasReported = 0 := by
    simp only [List.countP_eq_zero]
    exact ⟨fun c hm => by simp [hr c hm], fun c hm => by simp [hr c hm]⟩
  have hp : 0 < es.countP Event.isReport := List.countP_pos_iff.mpr ⟨_, hd, rfl⟩
  have := hc.reports
  have := hc.closes
  omega

end AuditTrail.Dispatch.Threads
