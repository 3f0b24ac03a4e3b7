import AuditTrail.Proofs.Dispatch.Operations
import AuditTrail.Dispatch.Threads
import Mathlib.Data.List.Induction

/-! # Operations are runs of threads

Whatever a dispatcher with workers does from one operation to the next, its threads can do step
by step, with the same counters and the same records in the queue and in flight.
-/

namespace AuditTrail.Dispatch.Threads

variable {s t u : State} {es es' : List Event} {e : Event}

theorem Run.one (h : Step s e t) : Run s [e] t := .snoc .nil h

theorem Run.trans (h : Run s es t) (h' : Run t es' u) : Run s (es ++ es') u := by
  induction h' with
  | nil => rwa [List.append_nil]
  | snoc _ hs ih =>
    rw [← List.append_assoc]
    exact ih.snoc hs

theorem Moves.of_append {α : Type} (a b : α) (front rest : List α) :
    Moves a b (front ++ a :: rest) (front ++ b :: rest) := by
  induction front with
  | nil => exact .here rest
  | cons c front ih => exact .there c ih

theorem Moves.exists_of_perm {α : Type} {a : α} (b : α) {l rest : List α}
    (h : l.Perm (a :: rest)) : ∃ l', Moves a b l l' ∧ l'.Perm (b :: rest) := by
  obtain ⟨front, back, rfl⟩ := List.append_of_mem (h.mem_iff.mpr List.mem_cons_self)
  refine ⟨_, .of_append a b front back, List.perm_middle.trans (.cons b ?_)⟩
  exact (List.perm_middle.symm.trans h).cons_inv

/-- The workers at work on records, beside others that are idle or have stopped. -/
def staff (ts : List Ticket) (idle stopped : Nat) : List Worker :=
  ts.map .storing ++ (List.replicate idle .idle ++ List.replicate stopped .stopped)

theorem staff_succ_idle (ts : List Ticket) (i j : Nat) :
    (staff ts (i + 1) j).Perm (.idle :: staff ts i j) := by
  rw [staff, List.replicate_succ, List.cons_append]
  exact List.perm_middle

theorem staff_succ_stopped (ts : List Ticket) (i j : Nat) :
    (staff ts i (j + 1)).Perm (.stopped :: staff ts i j) := by
  rw [staff, List.replicate_succ, ← List.append_assoc]
  refine List.perm_middle.trans (.cons _ ?_)
  rw [staff, List.append_assoc]

theorem staff_concat (tk : Ticket) (ts : List Ticket) (i j : Nat) :
    (staff (ts ++ [tk]) i j).Perm (.storing tk :: staff ts i j) := by
  rw [staff, List.map_append, List.append_assoc]
  exact List.perm_middle

section

variable {ω : Type} {d : Dispatch.State ω} {p : Pool}

/-- How a dispatcher between operations shows in its threads. -/
structure Shows (t : State) (d : Dispatch.State ω) (p : Pool) : Prop where
  pool : d.pool = some p
  phase : t.phase = d.phase
  counters : t.counters = d.counters
  cancelled : t.cancelled = p.cancelled
  abandoned : t.abandoned = p.abandoned
  capacity : t.queue.capacity = p.queue.capacity
  isOpen : t.queue.isOpen = p.queue.isOpen
  items : p.abandoned = false → t.queue.items.map Ticket.record = p.queue.items
  left : p.abandoned = true →
    d.phase ≠ .active ∧ p.queue.isOpen = false ∧ p.queue.items = []
  workers : ∃ ts i j, ts.map Ticket.record = p.inFlight ∧ t.workers.Perm (staff ts i j) ∧
    (p.queue.isOpen = true ∨ p.queue.items ≠ [] → i + ts.length = p.workers)

/-- What workers leave alone. -/
structure Alike (t u : State) : Prop where
  phase : u.phase = t.phase
  cancelled : u.cancelled = t.cancelled
  abandoned : u.abandoned = t.abandoned
  isOpen : u.queue.isOpen = t.queue.isOpen
  callers : u.callers = t.callers
  closers : u.closers = t.closers

theorem Alike.refl (t : State) : Alike t t := ⟨rfl, rfl, rfl, rfl, rfl, rfl⟩

theorem Alike.trans (h : Alike s t) (h' : Alike t u) : Alike s u where
  phase := h'.phase.trans h.phase
  cancelled := h'.cancelled.trans h.cancelled
  abandoned := h'.abandoned.trans h.abandoned
  isOpen := h'.isOpen.trans h.isOpen
  callers := h'.callers.trans h.callers
  closers := h'.closers.trans h.closers

theorem Shows.not_abandoned (h : Shows t d p) (hi : p.queue.items ≠ []) :
    p.abandoned = false := by
  rw [Bool.eq_false_iff]
  exact fun ha => hi (h.left ha).2.2

theorem Shows.exists_take? {r : Record} {q : Queue Record} (h : Shows t d p)
    (hq : p.queue.take? = some (r, q)) :
    ∃ tk q', t.queue.take? = some (tk, q') ∧ tk.record = r ∧
      q'.items.map Ticket.record = q.items := by
  have hi := Queue.items_of_take? hq
  have hm := h.items (h.not_abandoned (by simp [hi]))
  rw [hi] at hm
  obtain ⟨tk, rest, ht, hr, hrest⟩ := List.map_eq_cons_iff.mp hm
  cases hq' : t.queue.take? with
  | none => rw [Queue.take?_eq_none_iff, ht] at hq'; cases hq'
  | some x =>
    obtain ⟨tk', q'⟩ := x
    have hi' := Queue.items_of_take? hq'
    rw [ht, List.cons.injEq] at hi'
    obtain ⟨rfl, rfl⟩ := hi'
    exact ⟨tk, q', rfl, hr, hrest⟩

theorem Shows.take {tk : Ticket} {q : Queue Record} {q' : Queue Ticket} {c c' : Counters}
    {fs : List Record} {ws : List Worker} (h : Shows t d p)
    (hq : p.queue.take? = some (tk.record, q)) (hq' : t.queue.take? = some (tk, q'))
    (hrest : q'.items.map Ticket.record = q.items) (hc : c = c')
    (hw : ∃ ts i j, ts.map Ticket.record = fs ∧ ws.Perm (staff ts i j) ∧
      i + ts.length = p.workers) :
    Shows { t with counters := c, queue := q', workers := ws }
      { d with counters := c', pool := some { p with queue := q, inFlight := fs } }
      { p with queue := q, inFlight := fs } := by
  obtain ⟨hi, hqc, hqo⟩ := Queue.take?_eq_some_iff.mp hq
  obtain ⟨-, hqc', hqo'⟩ := Queue.take?_eq_some_iff.mp hq'
  have ha := h.not_abandoned (by simp [hi])
  obtain ⟨ts, i, j, hts, hws, hn⟩ := hw
  exact
    { pool := rfl
      phase := h.phase
      counters := hc
      cancelled := h.cancelled
      abandoned := h.abandoned
      capacity := hqc'.trans (h.capacity.trans hqc.symm)
      isOpen := hqo'.trans (h.isOpen.trans hqo.symm)
      items := fun _ => hrest
      left := fun hf => absurd hf (by simp [ha])
      workers := ⟨ts, i, j, hts, hws, fun _ => hn⟩ }

theorem take_run {d' : Dispatch.State ω} (h : Shows t d p) (hd : d.take? = some d') :
    ∃ es u p', Run t es u ∧ Shows u d' p' ∧ Alike t u := by
  obtain ⟨hl, r, q, hq, hcase⟩ := Dispatcher.of_take?_eq_some h.pool hd
  obtain ⟨tk, q', hq', rfl, hrest⟩ := h.exists_take? hq
  obtain ⟨ts, i, j, hts, hw, hn⟩ := h.workers
  have hn := hn (Or.inr (by simp [Queue.items_of_take? hq]))
  have hlen : ts.length = p.inFlight.length := by rw [← hts, List.length_map]
  obtain ⟨i, rfl⟩ : ∃ k, i = k + 1 := ⟨i - 1, by omega⟩
  obtain ⟨ws, hm, hws⟩ := Moves.exists_of_perm (.holding tk) (hw.trans (staff_succ_idle ts i j))
  have h₁ := Run.one (Step.receive hq' hm)
  have hopen := (Queue.take?_eq_some_iff.mp hq').2.2
  rcases hcase with ⟨hc, rfl⟩ | ⟨hc, rfl⟩
  · obtain ⟨ws₂, hm₂, hws₂⟩ := Moves.exists_of_perm (.dropping tk) hws
    obtain ⟨ws₃, hm₃, hws₃⟩ := Moves.exists_of_perm .idle hws₂
    have h₂ := h₁.snoc (.cancel (h.cancelled.trans hc) hm₂)
    have hs := h.take hq hq' hrest (congrArg Counters.countDropped h.counters)
      ⟨ts, i + 1, j, hts, hws₃.trans (staff_succ_idle ts i j).symm, hn⟩
    exact ⟨_, _, _, h₂.snoc (.countCancelled hm₃), hs, ⟨rfl, rfl, rfl, hopen, rfl, rfl⟩⟩
  · obtain ⟨ws₂, hm₂, hws₂⟩ := Moves.exists_of_perm (.cleared tk) hws
    obtain ⟨ws₃, hm₃, hws₃⟩ := Moves.exists_of_perm (.storing tk) hws₂
    have h₂ := h₁.snoc (.spare (h.cancelled.trans hc) hm₂)
    have hlen' : i + (ts ++ [tk]).length = p.workers := by
      rw [List.length_append, List.length_singleton]
      omega
    have hs := h.take hq hq' hrest h.counters
      ⟨ts ++ [tk], i, j, by rw [List.map_append, hts],
        hws₃.trans (staff_concat tk ts i j).symm, hlen'⟩
    exact ⟨_, _, _, h₂.snoc (.beginStore hm₃), hs, ⟨rfl, rfl, rfl, hopen, rfl, rfl⟩⟩

theorem takeUpTo_run (n : Nat) (h : Shows t d p) :
    ∃ es u p', Run t es u ∧ Shows u (d.takeUpTo n) p' ∧ Alike t u := by
  induction n generalizing t d p with
  | zero => exact ⟨_, _, _, .nil, h, .refl t⟩
  | succ n ih =>
    rw [State.takeUpTo]
    split
    · next d' hd =>
      obtain ⟨_, u, p', hr, hs, ha⟩ := take_run h hd
      obtain ⟨_, v, p'', hr', hs', ha'⟩ := ih hs
      exact ⟨_, v, p'', hr.trans hr', hs', ha.trans ha'⟩
    · exact ⟨_, _, _, .nil, h, .refl t⟩

theorem finish_run (sink : Sink ω) (now : Instant) (h : Shows t d p) :
    ∃ es u p', Run t es u ∧
      Shows u ((Dispatcher.finish (liftSink sink) now).run d).2 p' ∧ Alike t u := by
  obtain ⟨ts, i, j, hts, hw, hn⟩ := h.workers
  cases ts with
  | nil =>
    rw [Dispatcher.finish_of_nil h.pool hts.symm]
    exact ⟨_, _, _, .nil, h, .refl t⟩
  | cons tk ts =>
    rw [Dispatcher.finish_of_cons h.pool hts.symm]
    generalize ((sink.store now tk.record).run d.world) = outcome
    obtain ⟨delivery, world⟩ := outcome
    obtain ⟨ws, hm, hws⟩ := Moves.exists_of_perm (.counting tk delivery) hw
    have h₁ := Run.one (Step.endStore delivery hm)
    by_cases ha : p.abandoned = true ∧ delivery = .crashed
    · rw [if_pos ha]
      obtain ⟨ha, rfl⟩ := ha
      obtain ⟨ws₂, hm₂, hws₂⟩ := Moves.exists_of_perm .stopped hws
      refine ⟨_, _, { p with inFlight := ts.map Ticket.record },
        h₁.snoc (.abortCounting (h.abandoned.trans ha) hm₂), ?_, ⟨rfl, rfl, rfl, rfl, rfl, rfl⟩⟩
      exact
        { h with
          pool := rfl
          workers := by
            refine ⟨ts, i, j + 1, rfl, hws₂.trans (staff_succ_stopped ts i j).symm, ?_⟩
            simp [(h.left ha).2] }
    · rw [if_neg ha]
      obtain ⟨ws₂, hm₂, hws₂⟩ := Moves.exists_of_perm .idle hws
      refine ⟨_, _, { p with inFlight := ts.map Ticket.record }, h₁.snoc (.countDelivery hm₂), ?_,
        ⟨rfl, rfl, rfl, rfl, rfl, rfl⟩⟩
      exact
        { h with
          pool := rfl
          counters := congrArg (Counters.countDelivery · delivery) h.counters
          workers := by
            refine ⟨ts, i + 1, j, rfl, hws₂.trans (staff_succ_idle ts i j).symm, fun hp => ?_⟩
            have hlen := hn hp
            rw [List.length_cons] at hlen
            change i + 1 + ts.length = p.workers
            omega }

theorem work_run (sink : Sink ω) (now : Instant) (n : Nat) (h : Shows t d p) :
    ∃ es u p', Run t es u ∧
      Shows u ((Dispatcher.work (liftSink sink) now n).run d).2 p' ∧ Alike t u := by
  induction n generalizing t d p with
  | zero => exact takeUpTo_run _ h
  | succ n ih =>
    obtain ⟨_, u, _, hr, hs, ha⟩ := takeUpTo_run _ h
    obtain ⟨_, v, _, hr', hs', ha'⟩ := finish_run sink now hs
    obtain ⟨_, w, q, hr'', hs'', ha''⟩ := ih hs'
    exact ⟨_, w, q, (hr.trans hr').trans hr'', hs'', (ha.trans ha').trans ha''⟩

/-! ## Submitting -/

theorem Shows.offer?_eq_none (h : Shows t d p) {tk : Ticket}
    (hq : p.queue.offer? tk.record = none) : t.queue.offer? tk = none := by
  rw [Queue.offer?_eq_none_iff] at hq ⊢
  rw [h.isOpen, h.capacity]
  cases ha : p.abandoned with
  | true => exact Or.inl (h.left ha).2.1
  | false => rwa [← h.items ha, List.length_map] at hq

theorem Shows.exists_offer? (h : Shows t d p) (tk : Ticket) {q : Queue Record}
    (hq : p.queue.offer? tk.record = some q) :
    ∃ q', t.queue.offer? tk = some q' ∧ q'.items = t.queue.items ++ [tk] ∧
      q'.capacity = q.capacity ∧ q'.isOpen = q.isOpen := by
  cases hq' : t.queue.offer? tk with
  | none =>
    obtain ⟨⟨ho, hl⟩, -⟩ := Queue.offer?_eq_some_iff.mp hq
    rw [Queue.offer?_eq_none_iff, h.isOpen, h.capacity, ho] at hq'
    have hl' := hq'.resolve_left nofun
    cases ha : p.abandoned with
    | true => rw [(h.left ha).2.1] at ho; cases ho
    | false =>
      rw [← h.items ha, List.length_map] at hl
      omega
  | some q' =>
    obtain ⟨-, -, hc, ho⟩ := Queue.offer?_eq_some_iff.mp hq
    obtain ⟨-, hi', hc', ho'⟩ := Queue.offer?_eq_some_iff.mp hq'
    exact ⟨q', rfl, hi', by rw [hc, hc', h.capacity], by rw [ho, ho', h.isOpen]⟩

theorem forall_mem_concat {α : Type} {q : α → Prop} {l : List α} {a : α} (h : ∀ c ∈ l, q c)
    (ha : q a) : ∀ c ∈ l ++ [a], q c := by
  simp only [List.mem_append, List.mem_singleton]
  rintro c (hc | rfl)
  · exact h c hc
  · exact ha

theorem submit_run {D : Dispatcher ω} {sink : Sink (Dispatch.State ω)} (hD : D.sink = some sink)
    (now : Instant) (r : Record) (h : Shows t d p) (hr : t.AllReturned) :
    ∃ es u p', Run t es u ∧ Shows u ((D.submit now r).run d).2 p' ∧ u.AllReturned := by
  let tk : Ticket := ⟨t.callers.length, r⟩
  have hm (a b : Caller) : Moves a b (t.callers ++ [a]) (t.callers ++ [b]) := .of_append a b _ []
  have h₁ := Run.one (Step.call (s := t) r)
  have hret := forall_mem_concat hr.1 (a := .returned tk) ⟨tk, rfl⟩
  by_cases ha : d.phase = .active
  · have h₂ := h₁.snoc (.enter (h.phase.trans ha) (hm _ (.sending tk)))
    cases hq : p.queue.offer? r with
    | some q =>
      rw [Dispatcher.submit_of_offer hD ha h.pool hq]
      obtain ⟨q', hq', hi', hc', ho'⟩ := h.exists_offer? tk hq
      obtain ⟨⟨ho, -⟩, hi, -⟩ := Queue.offer?_eq_some_iff.mp hq
      refine ⟨_, _, { p with queue := q },
        (h₂.snoc (.accept hq' (hm _ (.counting tk true)))).snoc (.countTaken (hm _ (.returned tk))),
        ?_, hret, hr.2⟩
      exact
        { h with
          pool := rfl
          counters := congrArg Counters.countSubmitted h.counters
          capacity := hc'
          isOpen := ho'
          items := fun hb => by
            change q'.items.map Ticket.record = q.items
            rw [hi', List.map_append, h.items hb, hi]
            rfl
          left := fun hb => absurd ha (h.left hb).1
          workers := by
            obtain ⟨ts, i, j, hts, hw, hn⟩ := h.workers
            exact ⟨ts, i, j, hts, hw, fun _ => hn (Or.inl ho)⟩ }
    | none =>
      rw [Dispatcher.submit_of_no_room hD ha h.pool hq]
      refine ⟨_, _, p, (h₂.snoc (.refuse (h.offer?_eq_none hq) (hm _ (.counting tk false)))).snoc
        (.countRefused (hm _ (.returned tk))), ?_, hret, hr.2⟩
      exact { h with counters := congrArg Counters.countDropped h.counters }
  · rw [Dispatcher.submit_of_shutDown hD ha]
    have ha' : t.phase ≠ .active := by rwa [h.phase]
    refine ⟨_, _, p, (h₁.snoc (.turnAway ha' (hm _ (.counting tk false)))).snoc
      (.countRefused (hm _ (.returned tk))), ?_, hret, hr.2⟩
    exact { h with counters := congrArg Counters.countDropped h.counters }

/-! ## Shutting down -/

theorem stop_run {i j : Nat} (hw : t.workers.Perm (staff [] i j)) (ho : t.queue.isOpen = false)
    (hi : t.queue.items = []) :
    ∃ es ws, Run t es { t with workers := ws } ∧ ws.Perm (staff [] 0 (i + j)) := by
  induction i generalizing t j with
  | zero => exact ⟨_, _, .nil, by rwa [Nat.zero_add]⟩
  | succ i ih =>
    obtain ⟨ws, hm, hws⟩ := Moves.exists_of_perm .stopped (hw.trans (staff_succ_idle [] i j))
    have h₁ := Step.stop ho ((Queue.take?_eq_none_iff _).mpr hi) hm
    obtain ⟨_, ws', hr, hws'⟩ := ih (t := { t with workers := ws })
      (hws.trans (staff_succ_stopped [] i j).symm) ho hi
    refine ⟨_, ws', (Run.one h₁).trans hr, ?_⟩
    rwa [Nat.add_right_comm, Nat.add_assoc]

/-- Workers that are done with all records stop. -/
theorem join_run (h : Shows t d p) (hd : d.isDrained = true) (ho : p.queue.isOpen = false)
    (ha : p.abandoned = false) :
    ∃ es u, Run t es u ∧ Shows u d p ∧ Alike t u ∧ ∀ w ∈ u.workers, w = .stopped := by
  simp only [State.isDrained, h.pool, Option.all_some, Pool.isDrained, Bool.and_eq_true,
    List.isEmpty_iff] at hd
  obtain ⟨hi, hf⟩ := hd
  obtain ⟨ts, i, j, hts, hw, -⟩ := h.workers
  rw [hf, List.map_eq_nil_iff] at hts
  subst hts
  have hi' := h.items ha
  rw [hi, List.map_eq_nil_iff] at hi'
  obtain ⟨es, ws, hr, hws⟩ := stop_run hw (h.isOpen.trans ho) hi'
  refine ⟨es, _, hr, ?_, ⟨rfl, rfl, rfl, rfl, rfl, rfl⟩, fun w hm => ?_⟩
  · exact { h with workers := ⟨[], 0, i + j, hf.symm, hws, by simp [ho, hi]⟩ }
  · exact List.eq_of_mem_replicate (hws.mem_iff.mp hm)

theorem withPool_eq (h : Shows t d p) (f : Pool → Pool) :
    d.withPool f = { d with pool := some (f p) } := by
  rw [State.withPool, h.pool]
  rfl

theorem Shows.close (h : Shows t d p) (ha : p.abandoned = false) (cl : List Closer) :
    Shows { t with queue := t.queue.close, closers := cl }
      (d.withPool fun p => { p with queue := p.queue.close })
      { p with queue := p.queue.close } := by
  rw [withPool_eq h]
  exact
    { h with
      pool := rfl
      isOpen := rfl
      left := fun hf => absurd hf (by simp [ha])
      workers := by
        obtain ⟨ts, i, j, hts, hw, hn⟩ := h.workers
        exact ⟨ts, i, j, hts, hw, fun hf => hn (hf.imp_left nofun)⟩ }

theorem Shows.cancel (h : Shows t d p) (cl : List Closer) :
    Shows { t with cancelled := true, closers := cl }
      (d.withPool fun p => { p with cancelled := true }) { p with cancelled := true } := by
  rw [withPool_eq h]
  exact { h with pool := rfl, cancelled := rfl }

theorem Shows.abandon (h : Shows t d p) (hp : d.phase ≠ .active) (ho : p.queue.isOpen = false)
    (cl : List Closer) :
    Shows { t with abandoned := true, closers := cl }
      (d.withPool fun p => { p with queue := p.queue.clear, abandoned := true })
      { p with queue := p.queue.clear, abandoned := true } := by
  rw [withPool_eq h]
  exact
    { h with
      pool := rfl
      abandoned := rfl
      items := nofun
      left := fun _ => ⟨hp, ho, rfl⟩
      workers := by
        obtain ⟨ts, i, j, hts, hw, hn⟩ := h.workers
        exact ⟨ts, i, j, hts, hw, fun hf => hn (hf.imp_right fun hi => absurd rfl hi)⟩ }

theorem drain_run (sink : Sink ω) (now : Instant) (grace : Grace) {cl : List Closer}
    (h : Shows t d p) (hp : d.phase ≠ .active) (ha : p.abandoned = false)
    (hc : t.closers = cl ++ [.closing]) :
    ∃ es u p' all, Run t es u ∧
      Shows u ((Dispatcher.drain (liftSink sink) now grace).run d).2 p' ∧
      u.callers = t.callers ∧ u.closers = cl ++ [.drained all] := by
  have hm {u : State} {a : Closer} (b : Closer) (hu : u.closers = cl ++ [a]) :
      Moves a b u.closers (cl ++ [b]) := by
    rw [hu]
    exact .of_append a b cl []
  obtain ⟨_, u, q, hr, hs, hl⟩ :=
    work_run sink now grace.first (h.close ha (cl ++ [.waiting]))
  have hr := (Run.one (.closeQueue (hm .waiting hc))).trans hr
  have hcl : u.closers = cl ++ [.waiting] := hl.closers
  have ho : q.queue.isOpen = false := hs.isOpen.symm.trans hl.isOpen
  have hb : q.abandoned = false := by rw [← hs.abandoned, hl.abandoned, ← ha, ← h.abandoned]
  rw [Dispatcher.drain_eq rfl rfl]
  split
  · next hd =>
    obtain ⟨_, v, hr', hs', hl', hw⟩ := join_run hs hd ho hb
    exact ⟨_, _, q, true, (hr.trans hr').snoc (.join hw (hm _ (hl'.closers.trans hcl))),
      { hs' with }, hl'.callers.trans hl.callers, rfl⟩
  · obtain ⟨_, v, q', hr', hs', hl'⟩ :=
      work_run sink now grace.second (hs.cancel (cl ++ [.waitingAgain]))
    have hr' := ((hr.snoc (.timeOut (hm .cancelling hcl))).snoc
      (.setCancelled (hm .waitingAgain rfl))).trans hr'
    have hcl' : v.closers = cl ++ [.waitingAgain] := hl'.closers
    have hcall := hl'.callers.trans hl.callers
    have ho' : q'.queue.isOpen = false := by rw [← hs'.isOpen, hl'.isOpen, ← ho, ← hs.isOpen]
    split
    · next hd =>
      have hb' : q'.abandoned = false := by
        rw [← hs'.abandoned, hl'.abandoned, ← hb, ← hs.abandoned]
      obtain ⟨_, w, hr'', hs'', hl'', hw⟩ := join_run hs' hd ho' hb'
      exact ⟨_, _, q', true,
        (hr'.trans hr'').snoc (.joinAgain hw (hm _ (hl''.closers.trans hcl'))),
        { hs'' with }, hl''.callers.trans hcall, rfl⟩
    · have hv : v.phase = d.phase := hl'.phase.trans (hl.phase.trans h.phase)
      have hs'' := hs'.abandon (fun hf => hp (hv.symm.trans (hs'.phase.trans hf))) ho'
        (cl ++ [.drained false])
      exact ⟨_, _, _, false, hr'.snoc (.giveUp (hm _ hcl')), hs'', hcall, rfl⟩

theorem shutdown_run {D : Dispatcher ω} {sink : Sink ω} (hD : D.sink = some (liftSink sink))
    (now : Instant) (grace : Grace) (h : Shows t d p) (hr : t.AllReturned) :
    ∃ es u p', Run t es u ∧ Shows u ((D.shutdown now grace).run d).2 p' ∧ u.AllReturned := by
  have hm (a b : Closer) : Moves a b (t.closers ++ [a]) (t.closers ++ [b]) := .of_append a b _ []
  have hret := forall_mem_concat hr.2 (a := .returned) rfl
  have h₁ := Run.one (Step.shutdown (s := t))
  by_cases hp : d.phase = .active
  · have hw := h₁.snoc (.win (h.phase.trans hp) (hm _ .closing))
    have hs : Shows { t with phase := .draining, closers := t.closers ++ [.closing] }
        { d with phase := .draining } p :=
      { h with phase := rfl, left := fun ha => absurd hp (h.left ha).1 }
    have ha : p.abandoned = false := by
      rw [Bool.eq_false_iff]
      exact fun ha => (h.left ha).1 hp
    obtain ⟨_, u, q, all, hr', hs', hcall, hcl⟩ := drain_run sink now grace hs nofun ha rfl
    have hm' (b : Closer) : Moves (.drained all) b u.closers (t.closers ++ [b]) := by
      rw [hcl]
      exact .of_append _ b _ []
    rw [Dispatcher.shutdown_of_active hD hp]
    refine ⟨_, _, q, ((hw.trans hr').snoc (.closeSink (hm' .leaving))).snoc
      (.setClosed (hm .leaving .returned)), ?_, hcall ▸ hr.1, hret⟩
    exact
      { pool := hs'.pool
        phase := rfl
        counters := hs'.counters
        cancelled := hs'.cancelled
        abandoned := hs'.abandoned
        capacity := hs'.capacity
        isOpen := hs'.isOpen
        items := hs'.items
        left := fun hb => ⟨nofun, (hs'.left hb).2⟩
        workers := hs'.workers }
  · rw [Dispatcher.shutdown_of_shutDown hp]
    have hp' : t.phase ≠ .active := by rwa [h.phase]
    exact ⟨_, _, p, h₁.snoc (.lose hp' (hm _ .returned)), { h with }, hr.1, hret⟩

/-! ## Whole runs -/

/-- What is done to a dispatcher. -/
inductive Operation
  | submit (now : Instant) (r : Record)
  | advance (now : Instant) (deliveries : Nat)
  | shutdown (now : Instant) (grace : Grace)

def Operation.run (D : Dispatcher ω) : Operation → Dispatch.State ω → Dispatch.State ω
  | submit now r, d => ((D.submit now r).run d).2
  | advance now deliveries, d => ((D.advance now deliveries).run d).2
  | shutdown now grace, d => ((D.shutdown now grace).run d).2

theorem operation_run {D : Dispatcher ω} {sink : Sink ω} (hD : D.sink = some (liftSink sink))
    (o : Operation) (h : Shows t d p) (hr : t.AllReturned) :
    ∃ es u p', Run t es u ∧ Shows u (o.run D d) p' ∧ u.AllReturned := by
  cases o with
  | submit now r => exact submit_run hD now r h hr
  | advance now n =>
    obtain ⟨es, u, p', hr', hs, hl⟩ := work_run sink now n h
    refine ⟨es, u, p', hr', ?_, hl.callers ▸ hr.1, hl.closers ▸ hr.2⟩
    simpa only [Operation.run, Dispatcher.advance, hD] using hs
  | shutdown now grace => exact shutdown_run hD now grace h hr

theorem shows_start {D : Dispatcher ω} (hD : D.isPooled = true) (world : ω) :
    Shows (start D.settings.workerCount D.settings.capacity) (D.start world)
      (.ofSettings D.settings) where
  pool := by rw [Dispatcher.start, if_pos hD]
  phase := rfl
  counters := rfl
  cancelled := rfl
  abandoned := rfl
  capacity := rfl
  isOpen := rfl
  items := fun _ => rfl
  left := nofun
  workers := ⟨[], D.settings.workerCount, 0, rfl, by simp [start, staff], fun _ => rfl⟩

/-- Whatever is done to a dispatcher with workers is a run of its threads. -/
theorem exists_run {D : Dispatcher ω} {sink : Sink ω} (hD : D.sink = some (liftSink sink))
    (hp : D.isPooled = true) (world : ω) (os : List Operation) :
    ∃ es t p, Run (start D.settings.workerCount D.settings.capacity) es t ∧
      Shows t (os.foldl (fun d o => o.run D d) (D.start world)) p ∧ t.AllReturned := by
  induction os using List.reverseRecOn with
  | nil => exact ⟨_, _, _, .nil, shows_start hp world, nofun, nofun⟩
  | append_singleton os o ih =>
    obtain ⟨_, t, p, hr, hs, ha⟩ := ih
    obtain ⟨_, u, q, hr', hs', ha'⟩ := operation_run hD o hs ha
    rw [List.foldl_append]
    exact ⟨_, u, q, hr.trans hr', hs', ha'⟩

end

end AuditTrail.Dispatch.Threads
