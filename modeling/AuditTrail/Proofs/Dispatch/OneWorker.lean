import AuditTrail.Proofs.Dispatch.NoLoss
import AuditTrail.Proofs.Dispatch.Sequential

/-! # One worker

A single worker hands records to the sink in the order in which the queue took them, and cancels
those that are left over. If it cancels none and no record is refused, the sink and the counters
end as with a dispatcher without workers that is given the same records and shut down.
-/

namespace AuditTrail.Dispatch

attribute [ext] Counters

namespace Threads

variable {s t : State} {es : List Event} {e : Event} {capacity : Nat}

/-! ## Order -/

theorem accepted_snoc (es : List Event) (e : Event) :
    accepted (es ++ [e]) = accepted es ++ e.accepts?.toList :=
  filterMap_snoc ..

theorem storeCalls_snoc (es : List Event) (e : Event) :
    storeCalls (es ++ [e]) = storeCalls es ++ e.beginsStore?.toList :=
  filterMap_snoc ..

theorem ended_snoc (f : Fate) (es : List Event) (e : Event) :
    ended f (es ++ [e]) = ended f es ++ (e.decides? f).toList :=
  filterMap_snoc ..

theorem Moves.of_singleton {α : Type} {a b c : α} {l : List α} (h : Moves a b [c] l) :
    a = c ∧ l = [b] := by
  cases h with
  | here => exact ⟨rfl, rfl⟩
  | there _ h => cases h

/-- The record that a worker has taken and neither handed to the sink nor cancelled. -/
@[simp] def Worker.hand : Worker → List Ticket
  | .holding t | .cleared t => [t]
  | _ => []

/-- The records of a single worker in the order in which the queue took them: those handed to the
sink, those cancelled, the one in hand, those that were lost with the worker, those that wait. -/
structure InOrder (es : List Event) (s : State) (w : Worker) (lost : List Ticket) : Prop where
  worker : s.workers = [w]
  order : accepted es =
    storeCalls es ++ ended .cancelled es ++ (w.hand ++ lost ++ s.queue.items)
  lost : lost ≠ [] → w = .stopped ∧ s.abandoned = true
  cleared : ∀ k, w = .cleared k → ended .cancelled es = []
  cancelled : ended .cancelled es ≠ [] → s.cancelled = true

theorem inOrder_start (capacity : Nat) : InOrder [] (start 1 capacity) .idle [] where
  worker := rfl
  order := rfl
  lost := nofun
  cleared := nofun
  cancelled := nofun

variable {w : Worker} {lost : List Ticket}

theorem InOrder.lost_eq_nil (h : InOrder es s w lost) (hw : w ≠ .stopped) : lost = [] := by
  by_contra hl
  exact hw (h.lost hl).1

theorem InOrder.lost_eq_nil_of_kept (h : InOrder es s w lost) (ha : s.abandoned = false) :
    lost = [] := by
  by_contra hl
  simp [(h.lost hl).2] at ha

theorem InOrder.aside (h : InOrder es s w lost) (hw : t.workers = s.workers)
    (hq : t.queue.items = s.queue.items) (ha : s.abandoned = true → t.abandoned = true)
    (hc : s.cancelled = true → t.cancelled = true) (he : e.accepts? = none)
    (hb : e.beginsStore? = none) (hd : e.decides? .cancelled = none) :
    InOrder (es ++ [e]) t w lost := by
  have hn : ended .cancelled (es ++ [e]) = ended .cancelled es := by
    rw [ended_snoc, hd]
    exact List.append_nil _
  exact
    { worker := hw.trans h.worker
      order := by
        rw [accepted_snoc, storeCalls_snoc, hn, he, hb, hq, h.order]
        simp
      lost := fun hl => ⟨(h.lost hl).1, ha (h.lost hl).2⟩
      cleared := fun k hk => hn.trans (h.cleared k hk)
      cancelled := fun hne => hc (h.cancelled (hn ▸ hne)) }

theorem InOrder.move (h : InOrder es s w lost) {w' : Worker} {c : Counters}
    (hw : w.hand = []) (hs : w ≠ .stopped) (hw' : w'.hand = []) (he : e.accepts? = none)
    (hb : e.beginsStore? = none) (hd : e.decides? .cancelled = none) :
    InOrder (es ++ [e]) { s with counters := c, workers := [w'] } w' [] := by
  have hn : ended .cancelled (es ++ [e]) = ended .cancelled es := by
    rw [ended_snoc, hd]
    exact List.append_nil _
  exact
    { worker := rfl
      order := by
        rw [accepted_snoc, storeCalls_snoc, hn, he, hb, h.order, hw, hw', h.lost_eq_nil hs]
        simp
      lost := nofun
      cleared := fun k hk => by simp [hk] at hw'
      cancelled := fun hne => h.cancelled (hn ▸ hne) }

theorem inOrder_step (h : Step s e t) (ih : InOrder es s w lost) :
    ∃ w' lost', InOrder (es ++ [e]) t w' lost' := by
  cases h with
  | accept ho m =>
    refine ⟨w, lost, ih.worker, ?_, ih.lost, ?_, ?_⟩
    · rw [accepted_snoc, storeCalls_snoc, ended_snoc, ih.order, Queue.items_of_offer? ho]
      simp
    · simpa [ended_snoc] using ih.cleared
    · simpa [ended_snoc] using ih.cancelled
  | @receive k ws q hr m =>
    obtain ⟨rfl, rfl⟩ := Moves.of_singleton (ih.worker ▸ m)
    refine ⟨.holding k, [], rfl, ?_, nofun, nofun, ?_⟩
    · rw [accepted_snoc, storeCalls_snoc, ended_snoc, ih.order, Queue.items_of_take? hr,
        ih.lost_eq_nil nofun]
      simp
    · simpa [ended_snoc] using ih.cancelled
  | @spare k ws hc m =>
    obtain ⟨rfl, rfl⟩ := Moves.of_singleton (ih.worker ▸ m)
    have hn : ended .cancelled es = [] := by
      by_contra hne
      simp [ih.cancelled hne] at hc
    refine ⟨.cleared k, [], rfl, ?_, nofun, fun _ _ => ?_, fun hne => ?_⟩
    · rw [accepted_snoc, storeCalls_snoc, ended_snoc, ih.order, ih.lost_eq_nil nofun]
      simp
    · rw [ended_snoc, hn]
      rfl
    · rw [ended_snoc, hn] at hne
      exact absurd rfl hne
  | @cancel k ws hc m =>
    obtain ⟨rfl, rfl⟩ := Moves.of_singleton (ih.worker ▸ m)
    refine ⟨.dropping k, [], rfl, ?_, nofun, nofun, fun _ => hc⟩
    rw [accepted_snoc, storeCalls_snoc, ended_snoc, ih.order, ih.lost_eq_nil nofun]
    simp
  | @beginStore k ws m =>
    obtain ⟨rfl, rfl⟩ := Moves.of_singleton (ih.worker ▸ m)
    have hn := ih.cleared k rfl
    refine ⟨.storing k, [], rfl, ?_, nofun, nofun, fun hne => ?_⟩
    · rw [accepted_snoc, storeCalls_snoc, ended_snoc, ih.order, ih.lost_eq_nil nofun, hn]
      simp
    · rw [ended_snoc, hn] at hne
      exact absurd rfl hne
  | @abortCleared k ws ha m =>
    obtain ⟨rfl, rfl⟩ := Moves.of_singleton (ih.worker ▸ m)
    refine ⟨.stopped, [k], rfl, ?_, fun _ => ⟨rfl, ha⟩, nofun, ?_⟩
    · rw [accepted_snoc, storeCalls_snoc, ended_snoc, ih.order, ih.lost_eq_nil nofun]
      simp
    · simpa [ended_snoc] using ih.cancelled
  | endStore d m =>
    obtain ⟨rfl, rfl⟩ := Moves.of_singleton (ih.worker ▸ m)
    exact ⟨_, _, ih.move rfl nofun rfl rfl rfl (by cases d <;> rfl)⟩
  | countCancelled m | countDelivery m | stop _ _ m | abortIdle _ m
  | abortCounting _ m =>
    obtain ⟨rfl, rfl⟩ := Moves.of_singleton (ih.worker ▸ m)
    exact ⟨_, _, ih.move rfl nofun rfl rfl rfl (by simp)⟩
  | _ => exact ⟨w, lost, ih.aside rfl rfl (by simp) (by simp) rfl rfl (by simp)⟩

theorem inOrder_run (h : Run (start 1 capacity) es s) : ∃ w lost, InOrder es s w lost := by
  induction h with
  | nil => exact ⟨_, _, inOrder_start capacity⟩
  | snoc _ hs ih =>
    obtain ⟨w, lost, ih⟩ := ih
    exact inOrder_step hs ih

/-! ## The same records without workers -/

/-- The sink that answers by the records that it has received so far, and keeps them. -/
def answering (answer : List Record → Except Error Unit) : Sink (List Record) where
  name := "answering"
  store _ r := fun seen => (.ofExcept (answer (seen ++ [r])), seen ++ [r])

/-- A dispatcher without workers over such a sink. -/
def directly (answer : List Record → Except Error Unit) : Dispatcher (List Record) where
  settings := .synchronous
  sink := some (liftSink (answering answer))

/-- What becomes of it when records are submitted one after the other. -/
def tally (answer : List Record → Except Error Unit) (now : Instant) (rs : List Record) :
    Dispatch.State (List Record) :=
  (rs.map (Operation.submit now)).foldl (fun d o => o.run (directly answer) d)
    ((directly answer).start [])

variable {answer : List Record → Except Error Unit} {now : Instant}

theorem tally_concat (rs : List Record) (r : Record) :
    tally answer now (rs ++ [r]) =
      (((directly answer).submit now r).run (tally answer now rs)).2 := by
  simp only [tally, List.map_append, List.foldl_append, List.map_cons, List.map_nil,
    List.foldl_cons, List.foldl_nil, Operation.run]

theorem submit_directly {d : Dispatch.State (List Record)} (ha : d.phase = .active)
    (hp : d.pool = none) (r : Record) :
    (((directly answer).submit now r).run d).2 =
      { d with
        world := d.world ++ [r]
        counters :=
          d.counters.countSubmitted.countDelivery (.ofExcept (answer (d.world ++ [r]))) } := by
  rw [Dispatcher.submit_of_direct rfl ha hp, Dispatcher.run_deliver]
  rfl

theorem tally_open (answer : List Record → Except Error Unit) (now : Instant) (rs : List Record) :
    (tally answer now rs).phase = .active ∧ (tally answer now rs).pool = none ∧
      (tally answer now rs).world = rs := by
  induction rs using List.reverseRecOn with
  | nil => exact ⟨rfl, rfl, rfl⟩
  | append_singleton rs r ih =>
    obtain ⟨ha, hp, hw⟩ := ih
    rw [tally_concat, submit_directly ha hp]
    exact ⟨ha, hp, by rw [hw]⟩

theorem counters_tally_concat (rs : List Record) (r : Record) :
    (tally answer now (rs ++ [r])).counters =
      (tally answer now rs).counters.countSubmitted.countDelivery
        (.ofExcept (answer (rs ++ [r]))) := by
  obtain ⟨ha, hp, hw⟩ := tally_open answer now rs
  rw [tally_concat, submit_directly ha hp, hw]

/-- Shutting down changes neither what the sink has received nor the counters. -/
theorem shutdown_tally (grace : Grace) (rs : List Record) :
    (((directly answer).shutdown now grace).run (tally answer now rs)).2 =
      { tally answer now rs with phase := .closed } := by
  obtain ⟨ha, hp, -⟩ := tally_open answer now rs
  have hd : (Dispatcher.drain (liftSink (answering answer)) now grace).run
      { tally answer now rs with phase := .draining } =
        ((), { tally answer now rs with phase := .draining }) := Dispatcher.drain_of_direct hp
  rw [Dispatcher.shutdown_of_active rfl ha, hd]
  rfl

/-! ## Answers -/

@[simp] def Event.endsStore? : Event → Option Ticket
  | .endStore t _ => some t
  | _ => none

/-- The records that the sink has answered for, in the order of its answers. -/
def answered (es : List Event) : List Ticket := es.filterMap Event.endsStore?

theorem answered_snoc (es : List Event) (e : Event) :
    answered (es ++ [e]) = answered es ++ e.endsStore?.toList :=
  filterMap_snoc ..

/-- The outcomes of the sink are a function of the records that it has received so far. -/
def AnswersBy (answer : List Record → Except Error Unit) (es : List Event) : Prop :=
  ∀ before t d after, es = before ++ .endStore t d :: after →
    d = .ofExcept (answer ((storeCalls before).map Ticket.record))

theorem AnswersBy.of_snoc (h : AnswersBy answer (es ++ [e])) : AnswersBy answer es := by
  rintro before t d after rfl
  exact h before t d (after ++ [e]) (by simp)

theorem answersBy_nil : AnswersBy answer [] := by
  intro before t d after he
  simp at he

theorem AnswersBy.endStore (h : AnswersBy answer es) {k : Ticket} {d : Delivery}
    (hd : d = .ofExcept (answer ((storeCalls es).map Ticket.record))) :
    AnswersBy answer (es ++ [.endStore k d]) := by
  intro before t d' after he
  rcases List.eq_nil_or_concat after with rfl | ⟨after, x, rfl⟩
  · obtain ⟨rfl, hx⟩ := List.append_inj' he rfl
    rw [List.cons.injEq, Event.endStore.injEq] at hx
    exact hx.1.2 ▸ hd
  · rw [List.concat_eq_append, ← List.cons_append, ← List.append_assoc] at he
    exact h before t d' after (List.append_inj' he rfl).1

theorem AnswersBy.silent (h : AnswersBy answer es) {l : List Event}
    (hl : ∀ x ∈ l, x.endsStore? = none) : AnswersBy answer (es ++ l) := by
  intro before t d after he
  rcases List.append_eq_append_iff.mp he with ⟨m, rfl, hm⟩ | ⟨m, rfl, hm⟩
  · have hx := hl (.endStore t d) (by simp [hm])
    cases hx
  · cases m with
    | nil =>
      rw [List.nil_append] at hm
      have hx := hl (.endStore t d) (hm ▸ List.mem_cons_self)
      cases hx
    | cons x m =>
      rw [List.cons_append, List.cons.injEq] at hm
      obtain ⟨rfl, -⟩ := hm
      exact h before t d m rfl

/-- The record that a worker waits for the sink with. -/
@[simp] def Worker.pending : Worker → List Ticket
  | .storing t => [t]
  | _ => []

theorem answered_run (h : Run (start 1 capacity) es s) :
    ∃ w, s.workers = [w] ∧ storeCalls es = answered es ++ w.pending := by
  induction h with
  | nil => exact ⟨.idle, rfl, rfl⟩
  | snoc _ hs ih =>
    obtain ⟨w, hw, ih⟩ := ih
    rw [storeCalls_snoc, answered_snoc, ih]
    cases hs with
    | receive _ m | spare _ m | cancel _ m | countCancelled m | beginStore m | endStore _ m
    | countDelivery m | stop _ _ m | abortIdle _ m | abortCleared _ m | abortCounting _ m =>
      obtain ⟨rfl, rfl⟩ := Moves.of_singleton (hw ▸ m)
      exact ⟨_, rfl, by simp⟩
    | _ => exact ⟨w, hw, by simp⟩

/-- The counters of a dispatcher without workers that is given the records answered for. -/
structure Tallies (es : List Event) (c : Counters) : Prop where
  submitted : c.submitted = (answered es).length
  stored : c.stored = (ended .stored es).length
  failed : c.failed = (ended .failed es).length
  dropped : c.dropped = 0

theorem Tallies.endStore {c : Counters} (h : Tallies es c) (k : Ticket) (d : Delivery) :
    Tallies (es ++ [.endStore k d]) (c.countSubmitted.countDelivery d) := by
  obtain ⟨hs, ht, hf, hd⟩ := h
  constructor <;> cases d <;>
    simp [answered_snoc, ended_snoc, Counters.countSubmitted, Counters.countDelivery, *]

theorem Tallies.aside {c : Counters} (h : Tallies es c) (he : e.endsStore? = none) :
    Tallies (es ++ [e]) c := by
  obtain ⟨hs, ht, hf, hd⟩ := h
  constructor <;> cases e <;> simp_all [answered_snoc, ended_snoc]

theorem tallies_run (now : Instant) (h : Run (start 1 capacity) es s)
    (ha : AnswersBy answer es) :
    Tallies es (tally answer now ((answered es).map Ticket.record)).counters := by
  induction h with
  | nil => exact ⟨rfl, rfl, rfl, rfl⟩
  | @snoc es s e t h hs ih =>
    have ih := ih ha.of_snoc
    cases he : e.endsStore? with
    | none =>
      rw [answered_snoc, he]
      simpa using ih.aside he
    | some k =>
      cases hs with
      | endStore d m =>
        obtain ⟨w, hw, hc⟩ := answered_run h
        obtain ⟨rfl, -⟩ := Moves.of_singleton (hw ▸ m)
        have hd := ha es _ d [] rfl
        rw [hc, List.map_append] at hd
        rw [answered_snoc, List.map_append]
        simp only [Event.endsStore?, Option.toList_some, List.map_cons, List.map_nil]
        rw [counters_tally_concat]
        simp only [Worker.pending, List.map_cons, List.map_nil] at hd
        rw [← hd]
        exact ih.endStore _ d
      | _ => cases he

/-! ## Whole runs -/

theorem rest_of_drained (h : Run (start 1 capacity) es s) (hd : .drained true ∈ es) :
    accepted es = storeCalls es ++ ended .cancelled es := by
  obtain ⟨w, lost, hi⟩ := inOrder_run h
  have hw : w = .stopped := (stopping_run h).report hd w (by simp [hi.worker])
  rw [hi.order, hw, hi.lost_eq_nil_of_kept (not_abandoned_of_drained h hd),
    (queue_of_drained Nat.one_pos h hd).2]
  simp

theorem cancelled_eq_nil (h : Run (start 1 capacity) es s) (hc : s.cancelled = false) :
    ended .cancelled es = [] := by
  obtain ⟨_, _, hi⟩ := inOrder_run h
  by_contra hne
  simp [hi.cancelled hne] at hc

theorem answered_of_drained (h : Run (start 1 capacity) es s) (hd : .drained true ∈ es) :
    answered es = storeCalls es := by
  obtain ⟨w, hw, hp⟩ := answered_run h
  have hs : w = .stopped := (stopping_run h).report hd w (by simp [hw])
  rw [hp, hs]
  simp

theorem perm_accepted (h : Run (start 1 capacity) es s) (hr : s.AllReturned)
    (hf : ended .refused es = []) : (accepted es).Perm (submitted es) := by
  refine perm_of_countP fun q => ?_
  have hc := (accounts_run h).callers q
  rw [callers_countP_of_returned hr fun _ => rfl, hf, List.countP_nil] at hc
  omega

theorem counters_of_settled (h : Run (start 1 capacity) es s) (ha : AnswersBy answer es)
    (hd : .drained true ∈ es) (hr : s.AllReturned) (hf : ended .refused es = [])
    (hc : s.cancelled = false) :
    (tally answer now ((storeCalls es).map Ticket.record)).counters = s.counters := by
  have ht := tallies_run now h ha
  have hs := settled_of_drained Nat.one_pos h hd hr
  have hn := congrArg List.length (cancelled_eq_nil h hc)
  have hl := (perm_storeCalls h hd).length_eq
  rw [List.length_append] at hl
  rw [← answered_of_drained h hd]
  ext
  case submitted =>
    rw [ht.submitted, hs.submitted, answered_of_drained h hd, hl, hn]
    rfl
  case stored => rw [ht.stored, hs.stored]
  case failed => rw [ht.failed, hs.failed]
  case dropped =>
    rw [ht.dropped, hs.dropped, hf, hn]
    rfl

/-- A single worker and its sink, seen at any moment and at the end. -/
theorem one_worker_refines_directly (h : Run (start 1 capacity) es s) (ha : AnswersBy answer es) :
    (∃ rest, accepted es = storeCalls es ++ ended .cancelled es ++ rest ∧
      (s.abandoned = false → rest = s.workers.flatMap Worker.hand ++ s.queue.items) ∧
      (.drained true ∈ es → rest = [])) ∧
    (.drained true ∈ es → s.AllReturned → ended .refused es = [] → s.cancelled = false →
      (accepted es).Perm (submitted es) ∧ storeCalls es = accepted es ∧
      ∀ now grace,
        let last := (((directly answer).shutdown now grace).run
          (tally answer now ((accepted es).map Ticket.record))).2
        last.world = (storeCalls es).map Ticket.record ∧ last.counters = s.counters) := by
  refine ⟨?_, fun hd hr hf hc => ?_⟩
  · obtain ⟨w, lost, hi⟩ := inOrder_run h
    refine ⟨_, hi.order, fun hb => ?_, fun hd => ?_⟩
    · simp [hi.worker, hi.lost_eq_nil_of_kept hb]
    · exact List.append_right_eq_self.mp (hi.order.symm.trans (rest_of_drained h hd))
  · have hs : storeCalls es = accepted es := by
      rw [rest_of_drained h hd, cancelled_eq_nil h hc, List.append_nil]
    refine ⟨perm_accepted h hr hf, hs, fun now grace => ?_⟩
    rw [shutdown_tally, ← hs]
    exact ⟨(tally_open ..).2.2, counters_of_settled h ha hd hr hf hc⟩

/-- Two records, of which the sink refuses the first. -/
theorem one_worker_refines_directly_two_records :
    let answer (rs : List Record) : Except Error Unit :=
      if rs.length = 1 then .error (.io "full") else .ok ()
    ∃ es s, Run (start 1 2) es s ∧ AnswersBy answer es ∧ .drained true ∈ es ∧ s.AllReturned ∧
      ended .refused es = [] ∧ s.cancelled = false ∧ storeCalls es = accepted es ∧
      (accepted es).length = 2 ∧ s.counters = { submitted := 2, stored := 1, failed := 1 } ∧
      (((directly answer).shutdown ⟨0, 0⟩ ⟨0, 0⟩).run
        (tally answer ⟨0, 0⟩ ((accepted es).map Ticket.record))).2.counters = s.counters := by
  intro answer
  suffices ∃ es s, Run (start 1 2) es s ∧ AnswersBy answer es ∧ .drained true ∈ es ∧
      s.AllReturned ∧ ended .refused es = [] ∧ s.cancelled = false ∧ (accepted es).length = 2 ∧
      s.counters = { submitted := 2, stored := 1, failed := 1 } by
    obtain ⟨es, s, h, ha, hd, hr, hf, hc, hl, hs⟩ := this
    obtain ⟨-, hall, hlast⟩ := (one_worker_refines_directly h ha).2 hd hr hf hc
    exact ⟨es, s, h, ha, hd, hr, hf, hc, hall, hl, hs, (hlast ⟨0, 0⟩ ⟨0, 0⟩).2⟩
  let r : Record := { category := .authenticated, created := ⟨0, 0⟩ }
  let a : Ticket := ⟨0, r⟩
  let b : Ticket := ⟨1, r⟩
  have h₁ : Run (start 1 2) [.call a, .enter a, .accept a, .countCall a]
      { counters := { submitted := 1 }
        queue := { capacity := 2, items := [a], length_le := by decide }
        callers := [.returned a]
        workers := [.idle] } :=
    (((Run.nil.snoc (.call r)).snoc (.enter rfl (.here _))).snoc
      (.accept rfl (.here _))).snoc (.countTaken (.here _))
  have h₂ := (((h₁.snoc (.call r)).snoc (.enter rfl (.there _ (.here _)))).snoc
    (.accept rfl (.there _ (.here _)))).snoc (.countTaken (.there _ (.here _)))
  let first : List Event :=
    [.call a, .enter a, .accept a, .countCall a, .call b, .enter b, .accept b, .countCall b,
      .receive a, .spare a, .beginStore a]
  have h₃ : Run (start 1 2) first
      { counters := { submitted := 2 }
        queue := { capacity := 2, items := [b], length_le := by decide }
        callers := [.returned a, .returned b]
        workers := [.storing a] } :=
    ((h₂.snoc (.receive rfl (.here _))).snoc (.spare rfl (.here _))).snoc (.beginStore (.here _))
  let second := first ++ [.endStore a (.failed (.io "full"))] ++
    [.countRecord a, .receive b, .spare b, .beginStore b]
  have h₄ : Run (start 1 2) second
      { counters := { submitted := 2, failed := 1 }
        queue := { capacity := 2 }
        callers := [.returned a, .returned b]
        workers := [.storing b] } :=
    (h₃.snoc (.endStore _ (.here _))).trans ((((Run.one (.countDelivery (.here _))).snoc
      (.receive rfl (.here _))).snoc (.spare rfl (.here _))).snoc (.beginStore (.here _)))
  let last := second ++ [.endStore b .stored] ++
    [.countRecord b, .shutdown, .win, .closeQueue, .stop, .drained true, .closeSink, .setClosed]
  have h₅ : Run (start 1 2) last
      { phase := .closed
        counters := { submitted := 2, stored := 1, failed := 1 }
        queue := { capacity := 2, isOpen := false }
        callers := [.returned a, .returned b]
        workers := [.stopped]
        closers := [.returned] } :=
    (h₄.snoc (.endStore _ (.here _))).trans ((((((((Run.one (.countDelivery (.here _))).snoc
      .shutdown).snoc (.win rfl (.here _))).snoc (.closeQueue (.here _))).snoc
        (.stop rfl rfl (.here _))).snoc (.join (by simp) (.here _))).snoc
          (.closeSink (.here _))).snoc (.setClosed (.here _)))
  have ha₁ : AnswersBy answer first := answersBy_nil.silent (by simp)
  have ha₂ : AnswersBy answer second := (ha₁.endStore rfl).silent (by simp)
  have ha₃ : AnswersBy answer last := (ha₂.endStore rfl).silent (by simp)
  refine ⟨last, _, h₅, ha₃, ?_, ?_, rfl, rfl, rfl, rfl⟩
  · simp [last]
  · simp [State.AllReturned]

end Threads

end AuditTrail.Dispatch
