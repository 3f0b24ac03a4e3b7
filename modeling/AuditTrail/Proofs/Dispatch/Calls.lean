import AuditTrail.Proofs.Dispatch.Shutdowns

/-! # Calls that submit a record

Each call makes its steps in a fixed order, and all steps about its record are known from the
stage that it has come to, as long as no worker has a part in them.
-/

namespace AuditTrail.Dispatch

open Threads (Moves Ticket)

variable {es : List Threads.Event} {e : Threads.Event}

namespace Threads

/-- The record that a step is about. -/
@[simp] def Event.ticket? : Event → Option Ticket
  | .call t | .enter t | .turnAway t | .accept t | .refuse t | .countCall t | .receive t | .spare t
  | .cancel t | .beginStore t | .endStore t _ | .countRecord t => some t
  | .stop | .abort | .shutdown | .win | .lose | .closeQueue | .timeOut | .setCancelled | .drained _
  | .closeSink | .setClosed => none

/-- Whether a step is about the record that the call of a number submits. -/
def Event.isAbout (i : Nat) (e : Event) : Bool := e.ticket?.any (·.number == i)

theorem Event.isAbout_of_ticket? {e : Event} {t : Ticket} (h : e.ticket? = some t) (i : Nat) :
    e.isAbout i = (t.number == i) := by
  rw [isAbout, h, Option.any_some]

theorem Moves.exists_set {α : Type} {a b : α} {l l' : List α} (h : Moves a b l l') :
    ∃ i, l[i]? = some a ∧ l' = l.set i b := by
  induction h with
  | here rest => exact ⟨0, rfl, rfl⟩
  | there c _ ih =>
    obtain ⟨i, hi, rfl⟩ := ih
    exact ⟨i + 1, hi, rfl⟩

end Threads

/-- The steps about the record that the call of a number submits, in their order. -/
def stepsOf (i : Nat) (es : List Threads.Event) : List Threads.Event :=
  es.filter (Threads.Event.isAbout i)

theorem mem_stepsOf {i : Nat} {t : Ticket} (h : e.ticket? = some t) :
    e ∈ stepsOf i es ↔ e ∈ es ∧ t.number = i := by
  rw [stepsOf, List.mem_filter, Threads.Event.isAbout_of_ticket? h, beq_iff_eq]

theorem stepsOf_snoc {i : Nat} {t : Ticket} (h : e.ticket? = some t) (hi : t.number = i) :
    stepsOf i (es ++ [e]) = stepsOf i es ++ [e] :=
  filter_concat_of_true (by rw [Threads.Event.isAbout_of_ticket? h, hi, beq_self_eq_true]) es

theorem stepsOf_snoc_of_ne {i : Nat} {t : Ticket} (h : e.ticket? = some t) (hi : t.number ≠ i) :
    stepsOf i (es ++ [e]) = stepsOf i es := by
  refine filter_concat_of_false ?_ es
  rwa [Threads.Event.isAbout_of_ticket? h, beq_eq_false_iff_ne]

theorem stepsOf_snoc_of_none {i : Nat} (h : e.ticket? = none) :
    stepsOf i (es ++ [e]) = stepsOf i es :=
  filter_concat_of_false (by rw [Threads.Event.isAbout, h, Option.any_none]) es

/-! ## Courses -/

/-- Calls are numbered in their order, and each has made the steps of its stage. -/
structure Courses {C : Type} (ticket : C → Ticket) (Did : C → List Threads.Event → Prop)
    (cs : List C) (es : List Threads.Event) : Prop where
  fresh : ∀ i, cs.length ≤ i → stepsOf i es = []
  course : ∀ i c, cs[i]? = some c → (ticket c).number = i ∧ Did c (stepsOf i es)

namespace Courses

variable {C : Type} {ticket : C → Ticket} {Did : C → List Threads.Event → Prop} {cs cs' : List C}

theorem nil : Courses ticket Did [] [] where
  fresh := fun _ _ => rfl
  course := by simp

theorem aside (h : Courses ticket Did cs es) (he : e.ticket? = none) :
    Courses ticket Did cs (es ++ [e]) where
  fresh i hi := by rw [stepsOf_snoc_of_none he, h.fresh i hi]
  course i c hc := by
    rw [stepsOf_snoc_of_none he]
    exact h.course i c hc

theorem call (h : Courses ticket Did cs es) {c : C} (he : e.ticket? = some (ticket c))
    (hn : (ticket c).number = cs.length) (hd : Did c [e]) :
    Courses ticket Did (cs ++ [c]) (es ++ [e]) where
  fresh i hi := by
    rw [List.length_append, List.length_singleton] at hi
    rw [stepsOf_snoc_of_ne he (by omega)]
    exact h.fresh i (by omega)
  course i x hx := by
    rw [List.getElem?_append] at hx
    split at hx
    case isTrue hi =>
      rw [stepsOf_snoc_of_ne he (by omega)]
      exact h.course i x hx
    case isFalse hi =>
      obtain ⟨hi', rfl⟩ := List.getElem?_eq_some_iff.mp hx
      have hl : i = cs.length := by
        rw [List.length_singleton] at hi'
        omega
      subst hl
      simp only [List.getElem_singleton]
      rw [stepsOf_snoc he hn, h.fresh _ (Nat.le_refl _)]
      exact ⟨hn, hd⟩

theorem move (h : Courses ticket Did cs es) {c c' : C} (m : Moves c c' cs cs')
    (he : e.ticket? = some (ticket c)) (hc : ticket c' = ticket c)
    (hd : ∀ d, Did c d → Did c' (d ++ [e])) : Courses ticket Did cs' (es ++ [e]) := by
  obtain ⟨j, hj, rfl⟩ := m.exists_set
  obtain ⟨hl, -⟩ := List.getElem?_eq_some_iff.mp hj
  obtain ⟨hn, hdj⟩ := h.course j c hj
  constructor
  case fresh =>
    intro i hi
    rw [List.length_set] at hi
    rw [stepsOf_snoc_of_ne he (by omega)]
    exact h.fresh i hi
  case course =>
    intro i x hx
    by_cases hij : j = i
    · subst hij
      rw [List.getElem?_set_self hl, Option.some.injEq] at hx
      subst hx
      rw [stepsOf_snoc he hn, hc]
      exact ⟨hn, hd _ hdj⟩
    · rw [List.getElem?_set_ne hij] at hx
      rw [stepsOf_snoc_of_ne he (hn ▸ hij)]
      exact h.course i x hx

theorem work (h : Courses ticket Did cs es) {t : Ticket} (he : e.ticket? = some t)
    (hne : stepsOf t.number es ≠ [])
    (hd : ∀ c, Did c (stepsOf t.number es) → Did c (stepsOf t.number es ++ [e])) :
    Courses ticket Did cs (es ++ [e]) := by
  constructor
  case fresh =>
    intro i hi
    have hn := h.fresh i hi
    by_cases hij : t.number = i
    · rw [hij] at hne
      exact absurd hn hne
    · rwa [stepsOf_snoc_of_ne he hij]
  case course =>
    intro i c hc
    obtain ⟨hn, hdc⟩ := h.course i c hc
    by_cases hij : t.number = i
    · rw [stepsOf_snoc he hij]
      exact ⟨hn, hij ▸ hd c (hij ▸ hdc)⟩
    · rw [stepsOf_snoc_of_ne he hij]
      exact ⟨hn, hdc⟩

theorem exists_of_mem (h : Courses ticket Did cs es) {t : Ticket} (he : e.ticket? = some t)
    (hm : e ∈ es) : ∃ c, cs[t.number]? = some c ∧ (ticket c).number = t.number ∧
      Did c (stepsOf t.number es) ∧ e ∈ stepsOf t.number es := by
  have hs : e ∈ stepsOf t.number es := (mem_stepsOf he).mpr ⟨hm, rfl⟩
  cases hc : cs[t.number]? with
  | none =>
    rw [h.fresh _ (List.getElem?_eq_none_iff.mp hc)] at hs
    cases hs
  | some c => exact ⟨c, rfl, (h.course _ c hc).1, (h.course _ c hc).2, hs⟩

theorem eq_of_mem (h : Courses ticket Did cs es) {c c' : C} (hc : cs[(ticket c').number]? = some c)
    (hm : c' ∈ cs) : c = c' := by
  obtain ⟨i, hi⟩ := List.mem_iff_getElem?.mp hm
  rw [(h.course i c' hi).1, hi] at hc
  exact (Option.some.inj hc).symm

end Courses

/-! ## With workers -/

namespace Threads

variable {s t : State} {workers capacity : Nat}

@[simp] def Caller.ticket : Caller → Ticket
  | .entering k | .sending k | .counting k _ | .returned k => k

/-- The steps about the record of a call that has come to a stage. If the queue took the record,
workers go on with it. -/
inductive Caller.Did : Caller → List Event → Prop
  | entering {k} : Did (.entering k) [.call k]
  | sending {k} : Did (.sending k) [.call k, .enter k]
  | turnedAway {k} : Did (.counting k false) [.call k, .turnAway k]
  | refused {k} : Did (.counting k false) [.call k, .enter k, .refuse k]
  | taken {k d} : (∀ q, .turnAway q ∉ d) →
    Did (.counting k true) ([.call k, .enter k, .accept k] ++ d)
  | done {k d} : Did (.counting k false) d → Did (.returned k) (d ++ [.countCall k])
  | doneTaken {k d} : (∀ q, .turnAway q ∉ d) →
    Did (.returned k) ([.call k, .enter k, .accept k] ++ d)

theorem Caller.Did.work {c : Caller} {d : List Event} {k : Ticket} (h : c.Did d)
    (ha : .accept k ∈ d) (he : ∀ q, e ≠ .turnAway q) : c.Did (d ++ [e]) := by
  have hn : ∀ {d}, (∀ q, .turnAway q ∉ d) → ∀ q, .turnAway q ∉ d ++ [e] := by
    intro d hd q hq
    rcases List.mem_append.mp hq with hq | hq
    · exact hd q hq
    · exact he q (List.mem_singleton.mp hq).symm
  cases h with
  | taken hd =>
    rw [List.append_assoc]
    exact .taken (hn hd)
  | doneTaken hd =>
    rw [List.append_assoc]
    exact .doneTaken (hn hd)
  | done h => cases h <;> simp at ha
  | _ => simp at ha

@[simp] def Worker.ticket? : Worker → Option Ticket
  | .holding k | .cleared k | .storing k | .counting k _ | .dropping k => some k
  | .idle | .stopped => none

/-- All records with the queue and with workers were taken by the queue. -/
structure Given (es : List Event) (s : State) : Prop where
  queue : ∀ k ∈ s.queue.items, .accept k ∈ es
  workers : ∀ w ∈ s.workers, ∀ k, w.ticket? = some k → .accept k ∈ es

theorem Given.move (h : Given es s) {a b : Worker} {ws : List Worker} {c : Counters}
    (m : Moves a b s.workers ws) (hb : ∀ k, b.ticket? = some k → a.ticket? = some k) :
    Given (es ++ [e]) { s with counters := c, workers := ws } where
  queue k hk := List.mem_append_left _ (h.queue k hk)
  workers w hw k hk := by
    rcases m.mem_or hw with rfl | hw
    · exact List.mem_append_left _ (h.workers a m.mem k (hb k hk))
    · exact List.mem_append_left _ (h.workers w hw k hk)

theorem given_step (h : Step s e t) (ih : Given es s) : Given (es ++ [e]) t := by
  have hq : ∀ k ∈ s.queue.items, .accept k ∈ es ++ [e] := fun k hk =>
    List.mem_append_left _ (ih.queue k hk)
  have hw : ∀ w ∈ s.workers, ∀ k, w.ticket? = some k → .accept k ∈ es ++ [e] := fun w hm k hk =>
    List.mem_append_left _ (ih.workers w hm k hk)
  cases h with
  | accept ho m =>
    refine ⟨fun k hk => ?_, hw⟩
    rw [Queue.items_of_offer? ho, List.mem_append, List.mem_singleton] at hk
    rcases hk with hk | rfl
    · exact hq k hk
    · simp
  | @receive k ws q hr m =>
    have hi := Queue.items_of_take? hr
    refine ⟨fun k hk => hq k (hi ▸ List.mem_cons_of_mem _ hk), fun w hm k' hk => ?_⟩
    rcases m.mem_or hm with rfl | hm
    · obtain rfl := Option.some.inj hk
      exact hq k (hi ▸ List.mem_cons_self)
    · exact hw w hm k' hk
  | spare _ m | cancel _ m | countCancelled m | beginStore m | endStore _ m | countDelivery m
  | stop _ _ m | abortIdle _ m | abortCleared _ m | abortCounting _ m =>
    exact ih.move m (by simp)
  | _ => exact ⟨hq, hw⟩

theorem given_run (h : Run (start workers capacity) es s) : Given es s := by
  induction h with
  | nil => constructor <;> simp [start]
  | snoc _ hs ih => exact given_step hs ih

theorem courses_step (h : Step s e t) (hg : Given es s)
    (ih : Courses Caller.ticket Caller.Did s.callers es) :
    Courses Caller.ticket Caller.Did t.callers (es ++ [e]) := by
  -- A record that a worker has was taken, and the call that submits it has come that far.
  have hwork : ∀ k, .accept k ∈ es → e.ticket? = some k → (∀ q, e ≠ .turnAway q) →
      Courses Caller.ticket Caller.Did s.callers (es ++ [e]) := by
    intro k hk he hq
    have hs : .accept k ∈ stepsOf k.number es := (mem_stepsOf rfl).mpr ⟨hk, rfl⟩
    exact ih.work he (List.ne_nil_of_mem hs) fun c hc => hc.work hs hq
  cases h with
  | call r => exact ih.call rfl rfl .entering
  | enter _ m => exact ih.move m rfl rfl fun _ h => by cases h; exact .sending
  | turnAway _ m => exact ih.move m rfl rfl fun _ h => by cases h; exact .turnedAway
  | accept _ m => exact ih.move m rfl rfl fun _ h => by cases h; exact .taken (d := []) (by simp)
  | refuse _ m => exact ih.move m rfl rfl fun _ h => by cases h; exact .refused
  | countTaken m =>
    refine ih.move m rfl rfl fun _ h => ?_
    cases h with
    | taken hd =>
      rw [List.append_assoc]
      exact .doneTaken (by simpa using hd)
  | countRefused m => exact ih.move m rfl rfl fun _ h => .done h
  | receive hr m =>
    have hi := Queue.items_of_take? hr
    exact hwork _ (hg.queue _ (hi ▸ List.mem_cons_self)) rfl (by simp)
  | spare _ m | cancel _ m | countCancelled m | beginStore m | endStore _ m | countDelivery m =>
    exact hwork _ (hg.workers _ m.mem _ rfl) rfl (by simp)
  | _ => exact ih.aside rfl

theorem courses_run (h : Run (start workers capacity) es s) :
    Courses Caller.ticket Caller.Did s.callers es := by
  induction h with
  | nil => exact .nil
  | snoc h hs ih => exact courses_step hs (given_run h) ih

theorem run_of_machine {s : (machine workers capacity).State}
    (h : (machine workers capacity).Run (machine workers capacity).start es s) :
    Run (start workers capacity) es s := by
  induction h with
  | nil => exact .nil
  | snoc _ hs ih => exact ih.snoc hs

theorem Run.machine (h : Run (start workers capacity) es s) :
    (machine workers capacity).Run (machine workers capacity).start es s := by
  induction h with
  | nil => exact .nil
  | snoc _ hs ih => exact ih.snoc hs

end Threads

/-! ## Without workers -/

namespace Direct

variable {s t : State} {sink : Bool}

@[simp] def Caller.ticket : Caller → Ticket
  | .entering k | .admitted k | .refused k | .ready k | .storing k | .counting k _
  | .returned k => k

/-- The steps about the record of a call that has come to a stage. -/
inductive Caller.Did : Caller → List Threads.Event → Prop
  | entering {k} : Did (.entering k) [.call k]
  | admitted {k} : Did (.admitted k) [.call k, .enter k]
  | refused {k} : Did (.refused k) [.call k, .turnAway k]
  | ready {k} : Did (.ready k) [.call k, .enter k, .countCall k]
  | storing {k} : Did (.storing k) [.call k, .enter k, .countCall k, .beginStore k]
  | counting {k d} :
    Did (.counting k d) [.call k, .enter k, .countCall k, .beginStore k, .endStore k d]
  /-- There is no sink. -/
  | passed {k} : Did (.returned k) [.call k]
  | turnedAway {k} : Did (.returned k) [.call k, .turnAway k, .countCall k]
  | crashed {k} : Did (.returned k)
    [.call k, .enter k, .countCall k, .beginStore k, .endStore k .crashed]
  | done {k d} : Did (.returned k)
    [.call k, .enter k, .countCall k, .beginStore k, .endStore k d, .countRecord k]

theorem courses_step (h : Step sink s e t)
    (ih : Courses Caller.ticket Caller.Did s.callers es) :
    Courses Caller.ticket Caller.Did t.callers (es ++ [e]) := by
  cases h with
  | call r => exact ih.call rfl rfl .entering
  | pass r => exact ih.call rfl rfl .passed
  | enter _ m => exact ih.move m rfl rfl fun _ h => by cases h; exact .admitted
  | turnAway _ m => exact ih.move m rfl rfl fun _ h => by cases h; exact .refused
  | countTaken m => exact ih.move m rfl rfl fun _ h => by cases h; exact .ready
  | countRefused m => exact ih.move m rfl rfl fun _ h => by cases h; exact .turnedAway
  | beginStore m => exact ih.move m rfl rfl fun _ h => by cases h; exact .storing
  | endStore _ m => exact ih.move m rfl rfl fun _ h => by cases h; exact .counting
  | crash m => exact ih.move m rfl rfl fun _ h => by cases h; exact .crashed
  | countDelivery m => exact ih.move m rfl rfl fun _ h => by cases h; exact .done
  | _ => exact ih.aside rfl

theorem courses_run {s : (machine sink).State}
    (h : (machine sink).Run (machine sink).start es s) :
    Courses Caller.ticket Caller.Did s.callers es := by
  induction h with
  | nil => exact .nil
  | snoc _ hs ih => exact courses_step hs ih

end Direct

end AuditTrail.Dispatch
