import AuditTrail.Proofs.Dispatch.Closing
import Mathlib.Data.List.Nodup

/-! # No record is lost

Where a shutdown reports that all workers have stopped, every record submitted has met one fate
when all calls have returned. The sink was called once for each record stored or failed and for no
other, and always before it was closed.
-/

namespace AuditTrail.Dispatch.Threads

variable {s t : State} {es : List Event} {e : Event} {workers capacity : Nat}

/-! ## Tickets are distinct -/

theorem submitted_snoc (es : List Event) (e : Event) :
    submitted (es ++ [e]) = submitted es ++ e.submits?.toList :=
  filterMap_snoc ..

theorem numbers_submitted (h : Run (start workers capacity) es s) :
    (submitted es).map Ticket.number = List.range s.callers.length := by
  induction h with
  | nil => rfl
  | snoc _ hs ih =>
    rw [submitted_snoc, List.map_append, ih]
    cases hs with
    | call r => simp [List.range_succ]
    | enter _ m | turnAway _ m | accept _ m | refuse _ m | countTaken m | countRefused m =>
      simp [m.length_eq]
    | _ => simp

theorem nodup_submitted (h : Run (start workers capacity) es s) : (submitted es).Nodup := by
  apply List.Nodup.of_map Ticket.number
  rw [numbers_submitted h]
  exact List.nodup_range

/-! ## When all is over -/

theorem perm_of_countP {α : Type} {l l' : List α} (h : ∀ q : α → Bool, l.countP q = l'.countP q) :
    l.Perm l' := by
  classical
  exact List.perm_iff_count.mpr fun a => h _

theorem callers_countP_of_returned (hr : s.AllReturned) {p : Caller → Bool}
    (hp : ∀ t, p (.returned t) = false) : s.callers.countP p = 0 := by
  rw [List.countP_eq_zero]
  intro c hc
  obtain ⟨t, rfl⟩ := hr.1 c hc
  simp [hp]

theorem workers_countP_of_stopped (hw : ∀ w ∈ s.workers, w = .stopped) {p : Worker → Bool}
    (hp : p .stopped = false) : s.workers.countP p = 0 := by
  rw [List.countP_eq_zero]
  intro w hm
  simp [hw w hm, hp]

/-- What has come of the records of a run that is over. -/
structure Settled (es : List Event) (c : Counters) : Prop where
  nodup : (submitted es).Nodup
  fates : (submitted es).Perm
    (ended .refused es ++ ended .stored es ++ ended .failed es ++ ended .cancelled es)
  fate : ∀ t ∈ submitted es, ∃! f, t ∈ ended f es
  storeCalls_nodup : (storeCalls es).Nodup
  mem_storeCalls : ∀ t, t ∈ storeCalls es ↔ t ∈ ended .stored es ∨ t ∈ ended .failed es
  /-- The sink is closed once, and not called any more. -/
  close : ∃ before after, es = before ++ .closeSink :: after ∧ .closeSink ∉ before ∧
    ∀ e ∈ after, e ≠ .closeSink ∧ e.isStore = false
  submitted : c.submitted =
    (ended .stored es).length + (ended .failed es).length + (ended .cancelled es).length
  stored : c.stored = (ended .stored es).length
  failed : c.failed = (ended .failed es).length
  dropped : c.dropped = (ended .refused es).length + (ended .cancelled es).length

theorem existsUnique_fate {t : Ticket} {l : List Ticket} (hl : l.Nodup)
    (h : l.Perm
      (ended .refused es ++ ended .stored es ++ ended .failed es ++ ended .cancelled es))
    (ht : t ∈ l) : ∃! f, t ∈ ended f es := by
  have hn := h.nodup_iff.mp hl
  have hm := h.mem_iff.mp ht
  simp only [List.nodup_append, List.mem_append] at hn hm
  obtain ⟨⟨⟨-, -, h₁⟩, -, h₂⟩, -, h₃⟩ := hn
  have hne : ∀ f g, t ∈ ended f es → t ∈ ended g es → f = g := by
    intro f g hf hg
    cases f <;> cases g <;> grind
  rcases hm with ((hm | hm) | hm) | hm <;> exact ⟨_, hm, fun g hg => hne _ _ hg hm⟩

theorem perm_submitted (hw : 0 < workers) (h : Run (start workers capacity) es s)
    (hr : s.AllReturned) (hd : .drained true ∈ es) :
    (submitted es).Perm
      (ended .refused es ++ ended .stored es ++ ended .failed es ++ ended .cancelled es) := by
  refine perm_of_countP fun q => ?_
  have ha := accounts_run h
  have hs := (stopping_run h).report hd
  have hc := ha.callers q
  have hq := ha.workers (not_abandoned_of_drained h hd) q
  rw [callers_countP_of_returned hr fun _ => rfl] at hc
  rw [(queue_of_drained hw h hd).2, workers_countP_of_stopped hs rfl] at hq
  simp only [List.countP_nil] at hq
  simp only [List.countP_append]
  omega

theorem perm_storeCalls (h : Run (start workers capacity) es s) (hd : .drained true ∈ es) :
    (storeCalls es).Perm (ended .stored es ++ ended .failed es) := by
  refine perm_of_countP fun q => ?_
  have hc := (accounts_run h).calls q
  rw [workers_countP_of_stopped ((stopping_run h).report hd) rfl] at hc
  rw [List.countP_append]
  omega

theorem exists_close (h : Run (start workers capacity) es s) (hr : s.AllReturned)
    (hd : .drained true ∈ es) :
    ∃ before after, es = before ++ .closeSink :: after ∧ .closeSink ∉ before ∧
      ∀ e ∈ after, e ≠ .closeSink ∧ e.isStore = false := by
  have hc := countP_isClose_of_drained h hd hr.2
  obtain ⟨e, hm, he⟩ := List.countP_pos_iff.mp (Nat.lt_of_lt_of_eq Nat.zero_lt_one hc.symm)
  cases e with
  | closeSink =>
    have hp := stores_before_close h (not_abandoned_of_drained h hd)
    obtain ⟨before, after, rfl⟩ := List.append_of_mem hm
    simp only [List.countP_append, countP_cons_toNat, Event.isClose, Bool.toNat_true] at hc
    refine ⟨before, after, rfl, fun hb => ?_, fun e ha => ⟨?_, ?_⟩⟩
    · have : 0 < before.countP Event.isClose := List.countP_pos_iff.mpr ⟨_, hb, rfl⟩
      omega
    · rintro rfl
      have : 0 < after.countP Event.isClose := List.countP_pos_iff.mpr ⟨_, ha, rfl⟩
      omega
    · have hs := List.pairwise_cons.mp (List.pairwise_append.mp hp).2.1
      exact hs.1 e ha rfl
  | _ => cases he

theorem settled_of_drained (hw : 0 < workers) (h : Run (start workers capacity) es s)
    (hd : .drained true ∈ es) (hr : s.AllReturned) : Settled es s.counters := by
  have ha := accounts_run h
  have hs := (stopping_run h).report hd
  have hb := not_abandoned_of_drained h hd
  have hn := nodup_submitted h
  have hf := perm_submitted hw h hr hd
  have hc := perm_storeCalls h hd
  have hl := hf.nodup_iff.mp hn
  constructor
  case nodup => exact hn
  case fates => exact hf
  case fate => exact fun t ht => existsUnique_fate hn hf ht
  case storeCalls_nodup =>
    rw [hc.nodup_iff]
    refine hl.sublist ?_
    rw [List.append_assoc (ended .refused es)]
    exact (List.sublist_append_right ..).trans (List.sublist_append_left ..)
  case mem_storeCalls => exact fun t => hc.mem_iff.trans List.mem_append
  case close => exact exists_close h hr hd
  case submitted =>
    have hq := ha.workers hb fun _ => true
    have hm := ha.submitted
    rw [(queue_of_drained hw h hd).2, workers_countP_of_stopped hs rfl] at hq
    rw [callers_countP_of_returned hr fun _ => rfl] at hm
    simp only [List.countP_true, List.length_nil] at hq
    omega
  case stored =>
    have hm := ha.stored
    rwa [workers_countP_of_stopped hs rfl] at hm
  case failed =>
    have hm := ha.failed hb
    rwa [workers_countP_of_stopped hs rfl] at hm
  case dropped =>
    have hm := ha.dropped
    rwa [workers_countP_of_stopped hs rfl, callers_countP_of_returned hr fun _ => rfl] at hm

/-- One record stored and one refused for want of room, with a single worker. -/
theorem settled_of_drained_full_queue :
    ∃ es s, Run (start 1 1) es s ∧ .drained true ∈ es ∧ s.AllReturned ∧ Settled es s.counters ∧
      s.counters = { submitted := 1, stored := 1, dropped := 1 } := by
  let r : Record := { category := .authenticated, created := ⟨0, 0⟩ }
  have h₁ := ((((Run.nil (s := start 1 1)).snoc (.call r)).snoc (.enter rfl (.here _))).snoc
    (.accept rfl (.here _))).snoc (.countTaken (.here _))
  have h₂ := (((h₁.snoc (.call r)).snoc (.enter rfl (.there _ (.here _)))).snoc
    (.refuse rfl (.there _ (.here _)))).snoc (.countRefused (.there _ (.here _)))
  have h₃ := ((h₂.snoc (.receive rfl (.here _))).snoc (.spare rfl (.here _))).snoc
    (.beginStore (.here _))
  have h₄ := (h₃.snoc (.endStore .stored (.here _))).snoc (.countDelivery (.here _))
  have h₅ := (((h₄.snoc .shutdown).snoc (.win rfl (.here _))).snoc (.closeQueue (.here _))).snoc
    (.stop rfl rfl (.here _))
  have h₆ := ((h₅.snoc (.join (by simp) (.here _))).snoc (.closeSink (.here _))).snoc
    (.setClosed (.here _))
  refine ⟨_, _, h₆, ?_, ?_, settled_of_drained Nat.one_pos h₆ ?_ ?_, rfl⟩
  all_goals simp [State.AllReturned]

end AuditTrail.Dispatch.Threads
