import AuditTrail.Proofs.Dispatch.Calls

/-! # The life of a dispatcher

However many calls submit records and shut the dispatcher down, and in whatever order their threads
make their steps, the phase only goes forward. One shutdown does all there is to do and the others
nothing, and a record that comes later is dropped. Dropping the dispatcher is one more shutdown, and
whether the sink can be closed makes no difference to any of them.
-/

namespace AuditTrail.Dispatch

open Threads (Closer Moves Ticket accepted storeCalls)

variable {m : Mode} {es : List Threads.Event} {e : Threads.Event} {k : Ticket}

/-! ## Calls that are turned away -/

/-- Once it is turned away, a call has two stages, and all steps about its record are known. -/
def TurnsAway {C : Type} (Did : C → List Threads.Event → Prop) (k : Ticket)
    (refused returned : C) : Prop :=
  ∀ c d, Did c d → .turnAway k ∈ d → (c = refused ∧ d = [.call k, .turnAway k]) ∨
    (c = returned ∧ d = [.call k, .turnAway k, .countCall k])

namespace Courses

variable {C : Type} {ticket : C → Ticket} {Did : C → List Threads.Event → Prop} {cs : List C}
variable {refused returned c : C}

theorem caller_of_turnedAway (h : Courses ticket Did cs es)
    (hd : TurnsAway Did k refused returned) (hk : .turnAway k ∈ es) :
    (cs[k.number]? = some refused ∧ stepsOf k.number es = [.call k, .turnAway k]) ∨
      (cs[k.number]? = some returned ∧
        stepsOf k.number es = [.call k, .turnAway k, .countCall k]) := by
  obtain ⟨c, hc, -, hs, hm⟩ := h.exists_of_mem (t := k) rfl hk
  rcases hd c _ hs hm with ⟨rfl, hs⟩ | ⟨rfl, hs⟩
  · exact Or.inl ⟨hc, hs⟩
  · exact Or.inr ⟨hc, hs⟩

theorem steps_of_turnedAway (h : Courses ticket Did cs es)
    (hd : TurnsAway Did k refused returned) (hn : ticket returned = k) (hne : refused ≠ returned)
    (hk : .turnAway k ∈ es) :
    (stepsOf k.number es = [.call k, .turnAway k] ∧ returned ∉ cs) ∨
      (stepsOf k.number es = [.call k, .turnAway k, .countCall k] ∧ returned ∈ cs) := by
  rcases h.caller_of_turnedAway hd hk with ⟨hc, hs⟩ | ⟨hc, hs⟩
  · exact Or.inl ⟨hs, fun hm => hne (h.eq_of_mem (hn.symm ▸ hc) hm)⟩
  · exact Or.inr ⟨hs, List.mem_of_getElem? hc⟩

theorem eq_of_turnedAway (h : Courses ticket Did cs es)
    (hd : TurnsAway Did k refused returned) (hk : .turnAway k ∈ es) (hm : c ∈ cs)
    (hn : ticket c = k) : c = refused ∨ c = returned := by
  rcases h.caller_of_turnedAway hd hk with ⟨hc, -⟩ | ⟨hc, -⟩
  · exact Or.inl (h.eq_of_mem (hn.symm ▸ hc) hm).symm
  · exact Or.inr (h.eq_of_mem (hn.symm ▸ hc) hm).symm

end Courses

namespace Threads

variable {s t : State}

theorem turnsAway (k : Ticket) : TurnsAway Caller.Did k (.counting k false) (.returned k) := by
  intro c d h hk
  cases h with
  | turnedAway =>
    obtain rfl : k = _ := by simpa using hk
    exact Or.inl ⟨rfl, rfl⟩
  | done h =>
    cases h with
    | turnedAway =>
      obtain rfl : k = _ := by simpa using hk
      exact Or.inr ⟨rfl, rfl⟩
    | refused => simp at hk
  | taken hn | doneTaken hn => simp [hn] at hk
  | _ => simp at hk

theorem counters_of_turnedAway (h : Courses Caller.ticket Caller.Did s.callers es)
    (hk : .turnAway k ∈ es) (hs : Step s (.countCall k) t) :
    t.counters = s.counters.countDropped := by
  cases hs with
  | countRefused => rfl
  | countTaken mv =>
    rcases h.eq_of_turnedAway (turnsAway k) hk mv.mem rfl with hc | hc <;> cases hc

end Threads

namespace Direct

variable {s t : State} {sink : Bool}

theorem turnsAway (k : Ticket) : TurnsAway Caller.Did k (.refused k) (.returned k) := by
  intro c d h hk
  cases h with
  | refused =>
    obtain rfl : k = _ := by simpa using hk
    exact Or.inl ⟨rfl, rfl⟩
  | turnedAway =>
    obtain rfl : k = _ := by simpa using hk
    exact Or.inr ⟨rfl, rfl⟩
  | _ => simp at hk

theorem counters_of_turnedAway (h : Courses Caller.ticket Caller.Did s.callers es)
    (hk : .turnAway k ∈ es) (hs : Step sink s (.countCall k) t) :
    t.counters = s.counters.countDropped := by
  cases hs with
  | countRefused => rfl
  | countTaken mv =>
    rcases h.eq_of_turnedAway (turnsAway k) hk mv.mem rfl with hc | hc <;> cases hc

/-! ## Without a sink -/

/-- Calls that have nothing to do. -/
structure Idle (es : List Threads.Event) (s : State) : Prop where
  counters : s.counters = {}
  callers : ∀ c ∈ s.callers, ∃ k, c = .returned k
  steps : ∀ e ∈ es, ∀ k, e.ticket? = some k → e = .call k

theorem Idle.aside (h : Idle es s) (hc : t.counters = s.counters) (hl : t.callers = s.callers)
    (he : e.ticket? = none) : Idle (es ++ [e]) t where
  counters := hc.trans h.counters
  callers := hl ▸ h.callers
  steps e' hm k hk := by
    rcases List.mem_append.mp hm with hm | hm
    · exact h.steps e' hm k hk
    · rw [List.mem_singleton.mp hm, he] at hk
      cases hk

theorem idle_step (h : Step false s e t) (ih : Idle es s) : Idle (es ++ [e]) t := by
  cases h with
  | pass r hs =>
    refine ⟨ih.counters, fun c hc => ?_, fun e hm k hk => ?_⟩
    · rcases List.mem_append.mp hc with hc | hc
      · exact ih.callers c hc
      · exact ⟨_, List.mem_singleton.mp hc⟩
    · rcases List.mem_append.mp hm with hm | hm
      · exact ih.steps e hm k hk
      · obtain rfl := List.mem_singleton.mp hm
        exact congrArg _ (Option.some.inj hk)
  | call _ hs | win hs => cases hs
  | enter _ mv | turnAway _ mv | countTaken mv | countRefused mv | beginStore mv | endStore _ mv
  | crash mv | countDelivery mv =>
    obtain ⟨_, hc⟩ := ih.callers _ mv.mem
    cases hc
  | _ => exact ih.aside rfl rfl rfl

theorem idle_run {s : (machine false).State} (h : (machine false).Run (machine false).start es s) :
    Idle es s := by
  induction h with
  | nil => constructor <;> simp [machine]
  | snoc _ hs ih => exact idle_step hs ih

theorem Idle.returned (h : Idle es s) (hc : Courses Caller.ticket Caller.Did s.callers es)
    (hk : .call k ∈ es) : .returned k ∈ s.callers := by
  obtain ⟨c, hm, -, hd, hs⟩ := hc.exists_of_mem (t := k) rfl hk
  have hm := List.mem_of_getElem? hm
  obtain ⟨q, rfl⟩ := h.callers c hm
  have : q = k := by
    generalize stepsOf k.number es = d at hd hs
    cases hd <;> simpa [eq_comm] using hs
  exact this ▸ hm

end Direct

/-! ## In every mode -/

namespace Mode

variable {s t : m.machine.State}

theorem steps_of_turnedAway (h : m.machine.Run m.machine.start es s) (hk : .turnAway k ∈ es) :
    (stepsOf k.number es = [.call k, .turnAway k] ∧ ¬m.machine.HasReturned s k) ∨
      (stepsOf k.number es = [.call k, .turnAway k, .countCall k] ∧
        m.machine.HasReturned s k) := by
  cases m with
  | pooled =>
    have hc := Threads.courses_run (Threads.run_of_machine h)
    exact hc.steps_of_turnedAway (Threads.turnsAway k) rfl (by simp) hk
  | direct | disabled =>
    have hc := Direct.courses_run h
    exact hc.steps_of_turnedAway (Direct.turnsAway k) rfl (by simp) hk

theorem counters_of_turnedAway (h : m.machine.Run m.machine.start es s) (hk : .turnAway k ∈ es)
    (hs : m.machine.Step s (.countCall k) t) :
    m.machine.counters t = (m.machine.counters s).countDropped := by
  cases m with
  | pooled =>
    exact Threads.counters_of_turnedAway (Threads.courses_run (Threads.run_of_machine h)) hk hs
  | direct | disabled => exact Direct.counters_of_turnedAway (Direct.courses_run h) hk hs

theorem counters_of_uncounted (he : e = .call k ∨ e = .turnAway k) (hs : m.machine.Step s e t) :
    m.machine.counters t = m.machine.counters s := by
  cases m with
  | pooled =>
    have hs : Threads.Step s e t := hs
    rcases he with rfl | rfl <;> cases hs <;> rfl
  | direct | disabled =>
    have hs : Direct.Step _ s e t := hs
    rcases he with rfl | rfl <;> cases hs <;> rfl

theorem active_of_enter (hs : m.machine.Step s (.enter k) t) : m.machine.phase s = .active := by
  cases m with
  | pooled =>
    have hs : Threads.Step s (.enter k) t := hs
    cases hs with
    | enter ha => exact ha
  | direct | disabled =>
    have hs : Direct.Step _ s (.enter k) t := hs
    cases hs with
    | enter ha => exact ha

theorem apart_eq (he : e = .shutdown ∨ e = .lose) (hs : m.machine.Step s e t) :
    m.machine.apart t = m.machine.apart s := by
  cases m with
  | pooled =>
    have hs : Threads.Step s e t := hs
    rcases he with rfl | rfl <;> cases hs <;> rfl
  | direct | disabled =>
    have hs : Direct.Step _ s e t := hs
    rcases he with rfl | rfl <;> cases hs <;> rfl

end Mode

/-- No call finds the dispatcher active after the first step of the shutdown. -/
theorem enter_before_win {s : m.machine.State} (h : m.machine.Run m.machine.start es s) :
    es.Pairwise fun a b => a = .win → ∀ k, b ≠ .enter k := by
  induction h with
  | nil => exact .nil
  | snoc h hs ih =>
    refine List.pairwise_append.mpr ⟨ih, List.pairwise_singleton .., ?_⟩
    rintro _ hw e he rfl k rfl
    obtain rfl := List.mem_singleton.mp he
    exact (orderly_run h).active_iff.mp (Mode.active_of_enter hs) hw

/-- The life of a dispatcher, seen in a state that a run has come to and in the next step. -/
structure Lifecycle (m : Mode) (es : List Threads.Event) (s : m.machine.State) : Prop where
  active : m.machine.phase s = .active ↔ .win ∉ es
  closed : m.machine.phase s = .closed ↔ .setClosed ∈ es
  forward : ∀ e t, m.machine.Step s e t → m.machine.phase t = m.machine.phase s ∨
    (e = .win ∧ m.machine.phase s = .active ∧ m.machine.phase t = .draining) ∨
    (e = .setClosed ∧ m.machine.phase s = .draining ∧ m.machine.phase t = .closed)
  /-- One shutdown is at work while the dispatcher is draining, and none else. -/
  ahead : (m.machine.closers s).countP Closer.isAhead =
    if m.machine.phase s = .draining then 1 else 0
  /-- The shutdown makes the steps of a script, each of them once. -/
  script : ∃ script ∈ m.scripts, shutdownSteps es <+: script
  /-- When it has returned, it has made all of them, and the phase says so for ever. -/
  complete : .win ∈ es → (∀ c ∈ m.machine.closers s, c.isAhead = false) →
    shutdownSteps es ∈ m.scripts ∧ m.machine.phase s = .closed ∧
      ∀ e t, m.machine.Step s e t → m.machine.phase t = .closed
  /-- The other shutdowns change nothing. -/
  others : ∀ e t, m.machine.Step s e t → e = .shutdown ∨ e = .lose →
    m.machine.apart t = m.machine.apart s
  /-- After the first step of the shutdown, no call finds the dispatcher active. -/
  late : .win ∈ es → ∀ k t, ¬m.machine.Step s (.enter k) t
  /-- These are all steps about a record that is turned away. -/
  turnedAway : ∀ k, .turnAway k ∈ es →
    (stepsOf k.number es = [.call k, .turnAway k] ∧ ¬m.machine.HasReturned s k) ∨
      (stepsOf k.number es = [.call k, .turnAway k, .countCall k] ∧ m.machine.HasReturned s k)
  unreached : ∀ k, .turnAway k ∈ es → k ∉ accepted es ∧ k ∉ storeCalls es
  dropped : ∀ k t, .turnAway k ∈ es → m.machine.Step s (.countCall k) t →
    m.machine.counters t = (m.machine.counters s).countDropped
  uncounted : ∀ k e t, e = .call k ∨ e = .turnAway k → m.machine.Step s e t →
    m.machine.counters t = m.machine.counters s
  /-- Without a sink, a call returns at once and nothing is counted. -/
  idle : m = .disabled → m.machine.counters s = {} ∧
    ∀ e ∈ es, ∀ k, e.ticket? = some k → e = .call k ∧ m.machine.HasReturned s k

theorem Threads.accept_mem (h : k ∈ accepted es) : .accept k ∈ es := by
  obtain ⟨e, hm, he⟩ := List.mem_filterMap.mp h
  cases e with
  | accept t => exact Option.some.inj he ▸ hm
  | _ => cases he

theorem Threads.beginStore_mem (h : k ∈ storeCalls es) : .beginStore k ∈ es := by
  obtain ⟨e, hm, he⟩ := List.mem_filterMap.mp h
  cases e with
  | beginStore t => exact Option.some.inj he ▸ hm
  | _ => cases he

theorem not_mem_of_turnedAway {s : m.machine.State} (h : m.machine.Run m.machine.start es s)
    (hk : .turnAway k ∈ es) : k ∉ accepted es ∧ k ∉ storeCalls es := by
  constructor
  · intro hm
    have hs := (mem_stepsOf (i := k.number) (t := k) rfl).mpr ⟨Threads.accept_mem hm, rfl⟩
    rcases Mode.steps_of_turnedAway h hk with ⟨hd, -⟩ | ⟨hd, -⟩ <;> simp [hd] at hs
  · intro hm
    have hs := (mem_stepsOf (i := k.number) (t := k) rfl).mpr ⟨Threads.beginStore_mem hm, rfl⟩
    rcases Mode.steps_of_turnedAway h hk with ⟨hd, -⟩ | ⟨hd, -⟩ <;> simp [hd] at hs

theorem lifecycle_of_run {s : m.machine.State} (h : m.machine.Run m.machine.start es s) :
    Lifecycle m es s := by
  have ho := orderly_run h
  have hf : ∀ e t, m.machine.Step s e t → _ := fun e t hs => ho.phase_step (Mode.passes hs)
  constructor
  case active => exact ho.active_iff
  case closed => exact ho.closed_iff
  case forward => exact hf
  case ahead => exact ho.countP_isAhead
  case script => exact ho.exists_script
  case complete =>
    intro hw hl
    have hl : (m.machine.closers s).countP Closer.isAhead = 0 :=
      List.countP_eq_zero.mpr fun c hc => ne_true_of_eq_false (hl c hc)
    obtain ⟨hp, hs⟩ := ho.mem_scripts hw hl
    refine ⟨hs, hp, fun e t hs => ?_⟩
    rcases hf e t hs with ht | ⟨-, ha, -⟩ | ⟨-, hd, -⟩
    · rw [ht, hp]
    · rw [hp] at ha
      cases ha
    · rw [hp] at hd
      cases hd
  case others => exact fun e t hs he => Mode.apart_eq he hs
  case late => exact fun hw k t hs => ho.active_iff.mp (Mode.active_of_enter hs) hw
  case turnedAway => exact fun k hk => Mode.steps_of_turnedAway h hk
  case unreached => exact fun k hk => not_mem_of_turnedAway h hk
  case dropped => exact fun k t hk hs => Mode.counters_of_turnedAway h hk hs
  case uncounted => exact fun k e t he hs => Mode.counters_of_uncounted he hs
  case idle =>
    rintro rfl
    have hi := Direct.idle_run h
    refine ⟨hi.counters, fun e he k hk => ?_⟩
    obtain rfl := hi.steps e he k hk
    exact ⟨rfl, hi.returned (Direct.courses_run h) he⟩

/-- Two shutdowns, a worker that does not stop in time and a record that comes too late. -/
theorem lifecycle_of_run_unfinished_drain :
    ∃ es s, (Mode.pooled 1 1).machine.Run (Mode.pooled 1 1).machine.start es s ∧
      Lifecycle (.pooled 1 1) es s ∧ .lose ∈ es ∧ .drained false ∈ es ∧
      (∃ k, .turnAway k ∈ es ∧ stepsOf k.number es = [.call k, .turnAway k, .countCall k]) ∧
      (Mode.pooled 1 1).machine.phase s = .closed ∧
      (Mode.pooled 1 1).machine.counters s = { submitted := 1, dropped := 1 } := by
  let r : Record := { category := .authenticated, created := ⟨0, 0⟩ }
  let a : Ticket := ⟨0, r⟩
  let b : Ticket := ⟨1, r⟩
  let first : List Threads.Event :=
    [.call a, .enter a, .accept a, .countCall a, .receive a, .spare a, .beginStore a]
  have h₁ : Threads.Run (Threads.start 1 1) first
      { counters := { submitted := 1 }
        queue := { capacity := 1 }
        callers := [.returned a]
        workers := [.storing a] } :=
    ((((((Threads.Run.nil.snoc (.call r)).snoc (.enter rfl (.here _))).snoc
      (.accept rfl (.here _))).snoc (.countTaken (.here _))).snoc
        (.receive rfl (.here _))).snoc (.spare rfl (.here _))).snoc (.beginStore (.here _))
  let second := first ++
    [.shutdown, .shutdown, .win, .lose, .closeQueue, .timeOut, .setCancelled, .call b, .turnAway b]
  have h₂ : Threads.Run (Threads.start 1 1) second
      { phase := .draining
        counters := { submitted := 1 }
        queue := { capacity := 1, isOpen := false }
        cancelled := true
        callers := [.returned a, .counting b false]
        workers := [.storing a]
        closers := [.waitingAgain, .returned] } :=
    ((((((((h₁.snoc .shutdown).snoc .shutdown).snoc (.win rfl (.here _))).snoc
      (.lose nofun (.there _ (.here _)))).snoc (.closeQueue (.here _))).snoc
        (.timeOut (.here _))).snoc (.setCancelled (.here _))).snoc (.call r)).snoc
          (.turnAway nofun (.there _ (.here _)))
  let last := second ++ [.drained false, .closeSink, .countCall b, .setClosed]
  have h₃ : Threads.Run (Threads.start 1 1) last
      { phase := .closed
        counters := { submitted := 1, dropped := 1 }
        queue := { capacity := 1, isOpen := false }
        cancelled := true
        abandoned := true
        callers := [.returned a, .returned b]
        workers := [.storing a]
        closers := [.returned, .returned] } :=
    (((h₂.snoc (.giveUp (.here _))).snoc (.closeSink (.here _))).snoc
      (.countRefused (.there _ (.here _)))).snoc (.setClosed (.here _))
  have hm : (Mode.pooled 1 1).machine.Run (Mode.pooled 1 1).machine.start last _ := h₃.machine
  refine ⟨last, _, hm, lifecycle_of_run hm, ?_, ?_, ⟨b, ?_, rfl⟩, rfl, rfl⟩
  all_goals simp [last, second]

end AuditTrail.Dispatch
