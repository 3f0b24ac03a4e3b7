import AuditTrail.Dispatch.Watched
import AuditTrail.Proofs.Dispatch.Accounting

/-! # What readers of the counters may see

A call counts its record after the queue has taken it, and a reader begins with that count. So a
reader may see more deliveries than records submitted, but only by records that were taken and not
counted when it began, or were taken since.
-/

namespace AuditTrail.Dispatch

namespace Threads

variable {s t : State} {es : List Event} {e : Event}

/-! ## Deliveries never exceed the records taken -/

/-- Whether a worker has a record that it may yet count as delivered. -/
@[simp] def Worker.isBusy : Worker → Bool
  | .holding _ | .cleared _ | .storing _ | .counting _ _ => true
  | .idle | .dropping _ | .stopped => false

/-- The records delivered and counted, and those that may still be. -/
def State.deliverable (s : State) : Nat :=
  s.counters.stored + s.counters.failed + s.queue.items.length + s.workers.countP Worker.isBusy

theorem deliverable_step (h : Step s e t) (ih : s.deliverable ≤ (accepted es).length) :
    t.deliverable ≤ (accepted (es ++ [e])).length := by
  rw [length_accepted_snoc]
  unfold State.deliverable at ih ⊢
  cases h with
  | accept ho m =>
    simp [Queue.items_of_offer? ho]
    omega
  | receive hr m =>
    have hm := m.countP Worker.isBusy
    rw [Queue.items_of_take? hr] at ih
    simp at hm ih ⊢
    omega
  | spare _ m | cancel _ m | beginStore m | endStore _ m | stop _ _ m | abortIdle _ m
  | abortCleared _ m | abortCounting _ m | countCancelled m =>
    have hm := m.countP Worker.isBusy
    simp [Counters.countDropped] at hm ⊢
    omega
  | @countDelivery _ d _ m =>
    have hm := m.countP Worker.isBusy
    cases d <;> simp [Counters.countDelivery] at hm ⊢ <;> omega
  | closeQueue m => simpa [Queue.close] using ih
  | _ => simpa [Counters.countSubmitted, Counters.countDropped] using ih

theorem deliverable_run {workers capacity : Nat} (h : Run (start workers capacity) es s) :
    s.deliverable ≤ (accepted es).length := by
  induction h with
  | nil => simp [State.deliverable, start, List.countP_replicate]
  | snoc _ hs ih => exact deliverable_step hs ih

theorem deliveries_mono (h : Step s e t) :
    s.counters.stored ≤ t.counters.stored ∧ s.counters.failed ≤ t.counters.failed := by
  cases h with
  | @countDelivery _ d _ m => cases d <;> simp [Counters.countDelivery]
  | _ => simp [Counters.countSubmitted, Counters.countDropped]

/-- The calls whose record the queue has taken and that have yet to count it. -/
def State.uncounted (s : State) : Nat := s.callers.countP (Caller.counts true)

end Threads

namespace Watched

open Threads (accepted)

variable {s t u : State} {es : List Event} {e : Event} {i : Nat} {c : Counters}

/-- What the threads of a dispatcher did. -/
def ofThreads (es : List Event) : List Threads.Event := es.filterMap Event.thread?

@[simp] theorem ofThreads_append (es es' : List Event) :
    ofThreads (es ++ es') = ofThreads es ++ ofThreads es' :=
  List.filterMap_append

@[simp] theorem ofThreads_read (i : Nat) (es : List Event) :
    ofThreads (.read i :: es) = ofThreads es :=
  rfl

/-- Readers change nothing for the threads. -/
theorem Run.threads (h : Run s es t) : Threads.Run s.threads (ofThreads es) t.threads := by
  induction h with
  | nil => exact .nil
  | snoc _ hs ih =>
    rw [ofThreads_append]
    cases hs with
    | thread hs => exact ih.snoc hs
    | ask | read _ _ => exact (List.append_nil _).symm ▸ ih

/-! ## What a reader has read -/

/-- What a reader may have read that began when the counters were `b`, now that they are `c`. -/
@[simp] def Reader.Saw (b c : Counters) : Reader → Prop
  | .entering => False
  | .submitted n => n = b.submitted
  | .stored n m => n = b.submitted ∧ m ≤ c.stored
  | .failed n m k => n = b.submitted ∧ m ≤ c.stored ∧ k ≤ c.failed
  | .returned r => r.submitted = b.submitted ∧ r.stored ≤ c.stored ∧ r.failed ≤ c.failed

theorem Reader.Saw.mono {b c c' : Counters} {r : Reader} (h : r.Saw b c)
    (hs : c.stored ≤ c'.stored) (hf : c.failed ≤ c'.failed) : r.Saw b c' := by
  cases r with
  | entering => exact h
  | submitted n => exact h
  | stored n m => exact ⟨h.1, Nat.le_trans h.2 hs⟩
  | failed n m k => exact ⟨h.1, Nat.le_trans h.2.1 hs, Nat.le_trans h.2.2 hf⟩
  | returned r => exact ⟨h.1, Nat.le_trans h.2.1 hs, Nat.le_trans h.2.2 hf⟩

theorem Reader.Saw.read {b c : Counters} {r r' : Reader} (h : r.Saw b c)
    (hr : r.read? c = some r') : r'.Saw b c := by
  cases r with
  | entering => exact h.elim
  | submitted n =>
    obtain rfl := Option.some.inj hr
    exact ⟨h, Nat.le_refl _⟩
  | stored n m =>
    obtain rfl := Option.some.inj hr
    exact ⟨h.1, h.2, Nat.le_refl _⟩
  | failed n m k =>
    obtain rfl := Option.some.inj hr
    exact h
  | returned r => cases hr

/-- A reader has yet to begin, or there was a step at which it began. -/
def Began (start : State) (es : List Event) (s : State) (i : Nat) (r : Reader) : Prop :=
  r = .entering ∨ ∃ before u after, es = before ++ .read i :: after ∧ Run start before u ∧
    u.readers[i]? = some .entering ∧ r.Saw u.threads.counters s.threads.counters

theorem Began.aside {start : State} {r : Reader} (h : Began start es s i r) (e : Event)
    (hs : s.threads.counters.stored ≤ t.threads.counters.stored)
    (hf : s.threads.counters.failed ≤ t.threads.counters.failed) :
    Began start (es ++ [e]) t i r := by
  obtain he | ⟨before, u, after, rfl, hu, hr, hw⟩ := h
  · exact Or.inl he
  · exact Or.inr ⟨before, u, after ++ [e], by simp, hu, hr, hw.mono hs hf⟩

theorem Began.read {start : State} {r r' : Reader} (h : Began start es s i r)
    (hrun : Run start es s) (hi : s.readers[i]? = some r)
    (hr : r.read? s.threads.counters = some r') (ht : t.threads = s.threads) :
    Began start (es ++ [.read i]) t i r' := by
  rw [Began, ht]
  obtain rfl | ⟨before, u, after, rfl, hu, hur, hw⟩ := h
  · obtain rfl := Option.some.inj hr
    exact Or.inr ⟨es, s, [], rfl, hrun, hi, rfl⟩
  · exact Or.inr ⟨before, u, after ++ [.read i], by simp, hu, hur, hw.read hr⟩

theorem began_step {start : State} (hrun : Run start es s) (h : Step s e t)
    (ih : ∀ i r, s.readers[i]? = some r → Began start es s i r) :
    ∀ i r, t.readers[i]? = some r → Began start (es ++ [e]) t i r := by
  intro i r hi
  cases h with
  | thread hs =>
    have hm := Threads.deliveries_mono hs
    exact (ih i r hi).aside _ hm.1 hm.2
  | ask =>
    rw [List.getElem?_append] at hi
    split at hi
    · exact (ih i r hi).aside _ (Nat.le_refl _) (Nat.le_refl _)
    · exact Or.inl (List.mem_singleton.mp (List.mem_of_getElem? hi))
  | @read j r₀ r' hj hr =>
    by_cases hij : j = i
    · subst hij
      rw [List.getElem?_set_self (List.getElem?_eq_some_iff.mp hj).1] at hi
      obtain rfl := Option.some.inj hi
      exact (ih j r₀ hj).read hrun hj hr rfl
    · rw [List.getElem?_set_ne hij] at hi
      exact (ih i r hi).aside _ (Nat.le_refl _) (Nat.le_refl _)

theorem began_run {workers capacity : Nat} (h : Run (start workers capacity) es s) :
    ∀ i r, s.readers[i]? = some r → Began (start workers capacity) es s i r := by
  induction h with
  | nil => exact fun i r hi => by simp [start] at hi
  | snoc h hs ih => exact began_step h hs ih

/-! ## What a reader returns -/

/-- The counters returned show more deliveries than records submitted at most by the records that
the queue had taken and nobody had counted when the reader began, and by those that it has taken
since. -/
theorem deliveries_of_returned {workers capacity : Nat} (h : Run (start workers capacity) es s)
    (hi : s.readers[i]? = some (.returned c)) :
    ∃ before u after, es = before ++ .read i :: after ∧
      Run (start workers capacity) before u ∧ u.readers[i]? = some .entering ∧
      c.submitted = u.threads.counters.submitted ∧
      c.stored + c.failed ≤
        c.submitted + u.threads.uncounted + (accepted (ofThreads after)).length := by
  obtain he | ⟨before, u, after, rfl, hu, hr, hc, hs, hf⟩ := began_run h i _ hi
  · cases he
  refine ⟨before, u, after, rfl, hu, hr, hc, ?_⟩
  have hd := Threads.deliverable_run h.threads
  have ha := (Threads.accounts_run hu.threads).submitted
  have hl : accepted (ofThreads (before ++ .read i :: after)) =
      accepted (ofThreads before) ++ accepted (ofThreads after) := by
    simp [accepted]
  rw [hl, List.length_append] at hd
  unfold Threads.State.deliverable at hd
  unfold Threads.State.uncounted
  omega

/-- A record is delivered before the call that submits it has counted it, and a reader comes in
between. -/
def overtaken (k : Threads.Ticket) : List Event :=
  [.thread (.call k), .thread (.enter k), .thread (.accept k), .thread (.receive k),
    .thread (.spare k), .thread (.beginStore k), .thread (.endStore k .stored),
    .thread (.countRecord k), .ask] ++
  .read 0 :: [.read 0, .read 0, .read 0, .thread (.countCall k)]

theorem overtaken_run (r : Record) :
    Run (start 1 1) (overtaken ⟨0, r⟩)
      { threads :=
          { queue := { capacity := 1 }
            counters := { submitted := 1, stored := 1 }
            callers := [.returned ⟨0, r⟩]
            workers := [.idle] }
        readers := [.returned { stored := 1 }] } := by
  have h₁ := (((Run.nil (s := start 1 1)).snoc (.thread (.call r))).snoc
    (.thread (.enter rfl (.here _)))).snoc (.thread (.accept rfl (.here _)))
  have h₂ := ((h₁.snoc (.thread (.receive rfl (.here _)))).snoc
    (.thread (.spare rfl (.here _)))).snoc (.thread (.beginStore (.here _)))
  have h₃ := ((h₂.snoc (.thread (.endStore .stored (.here _)))).snoc
    (.thread (.countDelivery (.here _)))).snoc .ask
  have h₄ := (((h₃.snoc (.read (i := 0) rfl rfl)).snoc (.read (i := 0) rfl rfl)).snoc
    (.read (i := 0) rfl rfl)).snoc (.read (i := 0) rfl rfl)
  exact h₄.snoc (.thread (.countTaken (.here _)))

theorem deliveries_of_returned_of_overtaken :
    let k : Threads.Ticket := ⟨0, { category := .authenticated, created := ⟨0, 0⟩ }⟩
    ∃ s c, Run (start 1 1) (overtaken k) s ∧ s.readers[0]? = some (.returned c) ∧
      ∃ before u after, overtaken k = before ++ .read 0 :: after ∧ Run (start 1 1) before u ∧
        u.readers[0]? = some .entering ∧ c.submitted = u.threads.counters.submitted ∧
        c.stored + c.failed ≤
          c.submitted + u.threads.uncounted + (accepted (ofThreads after)).length :=
  ⟨_, _, overtaken_run _, rfl, deliveries_of_returned (overtaken_run _) rfl⟩

/-- A reader is told of a delivery and of no record submitted. -/
theorem returned_of_overtaken :
    ¬ ∀ (workers capacity : Nat) (es : List Event) (s : State) (c : Counters),
      Run (start workers capacity) es s → .returned c ∈ s.readers →
        c.stored + c.failed ≤ c.submitted := by
  intro h
  have hs := h 1 1 _ _ { stored := 1 }
    (overtaken_run { category := .authenticated, created := ⟨0, 0⟩ }) List.mem_cons_self
  exact absurd hs (by decide)

end Watched

end AuditTrail.Dispatch
