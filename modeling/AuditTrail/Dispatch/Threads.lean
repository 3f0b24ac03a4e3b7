import AuditTrail.Dispatch.Basic

/-! # Threads of a pooled dispatcher

A pooled dispatcher one access to shared state at a time. Callers submit records, workers take
them from the queue and deliver them, and whoever shuts the dispatcher down waits for the workers.
Any thread may make the next step.
-/

namespace AuditTrail.Dispatch.Threads

/-- A record, and the number of the call that submits it. -/
structure Ticket where
  number : Nat
  record : Record

/-- How far a call that submits a record has come. -/
inductive Caller
  /-- Has yet to read the phase. -/
  | entering (t : Ticket)
  /-- Found the dispatcher active and has yet to offer the record. -/
  | sending (t : Ticket)
  | counting (t : Ticket) (taken : Bool)
  | returned (t : Ticket)

/-- How far a worker has come with the record that it took. -/
inductive Worker
  | idle
  /-- Has yet to read whether records are cancelled. -/
  | holding (t : Ticket)
  /-- Found that they are not. -/
  | cleared (t : Ticket)
  /-- Waits for the sink. -/
  | storing (t : Ticket)
  | counting (t : Ticket) (d : Delivery)
  | dropping (t : Ticket)
  | stopped

/-- How far a shutdown has come. -/
inductive Closer
  | entering
  /-- Was the first and has yet to close the queue. -/
  | closing
  | waiting
  /-- The first period of grace is over. -/
  | cancelling
  | waitingAgain
  /-- Knows whether all workers have stopped. -/
  | drained (all : Bool)
  /-- Has closed the sink. -/
  | leaving
  | returned

structure State where
  phase : Phase := .active
  counters : Counters := {}
  /-- The queue, open as long as records can be sent. -/
  queue : Queue Ticket
  cancelled : Bool := false
  /-- Whether nobody looks after the workers any more. -/
  abandoned : Bool := false
  callers : List Caller := []
  workers : List Worker
  closers : List Closer := []

/-- The state at the start. -/
def start (workers capacity : Nat) : State where
  queue := { capacity }
  workers := List.replicate workers .idle

/-- What a step does. -/
inductive Event
  | call (t : Ticket)
  | enter (t : Ticket)
  | turnAway (t : Ticket)
  | accept (t : Ticket)
  | refuse (t : Ticket)
  | countCall (t : Ticket)
  | receive (t : Ticket)
  | spare (t : Ticket)
  | cancel (t : Ticket)
  | beginStore (t : Ticket)
  | endStore (t : Ticket) (d : Delivery)
  | countRecord (t : Ticket)
  | stop
  | abort
  | shutdown
  | win
  | lose
  | closeQueue
  | timeOut
  | setCancelled
  | drained (all : Bool)
  | closeSink
  | setClosed

/-- One thread of a list goes on from a stage to another. -/
inductive Moves {α : Type} (a b : α) : List α → List α → Prop
  | here (rest : List α) : Moves a b (a :: rest) (b :: rest)
  | there (c : α) {l l' : List α} : Moves a b l l' → Moves a b (c :: l) (c :: l')

theorem Moves.countP {α : Type} {a b : α} {l l' : List α} (h : Moves a b l l') (p : α → Bool) :
    l'.countP p + (p a).toNat = l.countP p + (p b).toNat := by
  induction h with
  | here rest => cases ha : p a <;> cases hb : p b <;> simp [ha, hb]
  | there c _ ih => simp only [List.countP_cons]; omega

theorem Moves.length_eq {α : Type} {a b : α} {l l' : List α} (h : Moves a b l l') :
    l'.length = l.length := by
  induction h with
  | here => rfl
  | there c _ ih => simp [ih]

theorem Moves.mem {α : Type} {a b : α} {l l' : List α} (h : Moves a b l l') : a ∈ l := by
  induction h with
  | here => exact List.mem_cons_self
  | there c _ ih => exact List.mem_cons_of_mem c ih

theorem Moves.mem_or {α : Type} {a b c : α} {l l' : List α} (h : Moves a b l l')
    (hc : c ∈ l') : c = b ∨ c ∈ l := by
  induction h with
  | here rest => exact (List.mem_cons.mp hc).imp_right (List.mem_cons_of_mem _)
  | there d _ ih =>
    rcases List.mem_cons.mp hc with rfl | hc
    · exact Or.inr List.mem_cons_self
    · exact (ih hc).imp_right (List.mem_cons_of_mem d)

/-- The steps of all threads. -/
inductive Step (s : State) : Event → State → Prop
  | call (r : Record) :
    Step s (.call ⟨s.callers.length, r⟩)
      { s with callers := s.callers ++ [.entering ⟨s.callers.length, r⟩] }
  | enter {t cs} : s.phase = .active → Moves (.entering t) (.sending t) s.callers cs →
    Step s (.enter t) { s with callers := cs }
  | turnAway {t cs} : s.phase ≠ .active → Moves (.entering t) (.counting t false) s.callers cs →
    Step s (.turnAway t) { s with callers := cs }
  | accept {t cs q} : s.queue.offer? t = some q →
    Moves (.sending t) (.counting t true) s.callers cs →
    Step s (.accept t) { s with queue := q, callers := cs }
  | refuse {t cs} : s.queue.offer? t = none →
    Moves (.sending t) (.counting t false) s.callers cs →
    Step s (.refuse t) { s with callers := cs }
  | countTaken {t cs} : Moves (.counting t true) (.returned t) s.callers cs →
    Step s (.countCall t) { s with counters := s.counters.countSubmitted, callers := cs }
  | countRefused {t cs} : Moves (.counting t false) (.returned t) s.callers cs →
    Step s (.countCall t) { s with counters := s.counters.countDropped, callers := cs }
  | receive {t ws q} : s.queue.take? = some (t, q) → Moves .idle (.holding t) s.workers ws →
    Step s (.receive t) { s with queue := q, workers := ws }
  | spare {t ws} : s.cancelled = false → Moves (.holding t) (.cleared t) s.workers ws →
    Step s (.spare t) { s with workers := ws }
  | cancel {t ws} : s.cancelled = true → Moves (.holding t) (.dropping t) s.workers ws →
    Step s (.cancel t) { s with workers := ws }
  | countCancelled {t ws} : Moves (.dropping t) .idle s.workers ws →
    Step s (.countRecord t) { s with counters := s.counters.countDropped, workers := ws }
  | beginStore {t ws} : Moves (.cleared t) (.storing t) s.workers ws →
    Step s (.beginStore t) { s with workers := ws }
  | endStore {t ws} (d : Delivery) : Moves (.storing t) (.counting t d) s.workers ws →
    Step s (.endStore t d) { s with workers := ws }
  | countDelivery {t d ws} : Moves (.counting t d) .idle s.workers ws →
    Step s (.countRecord t) { s with counters := s.counters.countDelivery d, workers := ws }
  /-- A closed queue that is empty tells a worker to stop. -/
  | stop {ws} : s.queue.isOpen = false → s.queue.take? = none → Moves .idle .stopped s.workers ws →
    Step s .stop { s with workers := ws }
  /-- A worker that nobody looks after may be stopped wherever it waits. -/
  | abortIdle {ws} : s.abandoned = true → Moves .idle .stopped s.workers ws →
    Step s .abort { s with workers := ws }
  | abortCleared {t ws} : s.abandoned = true → Moves (.cleared t) .stopped s.workers ws →
    Step s .abort { s with workers := ws }
  /-- A breakdown that nobody looks after is not counted. -/
  | abortCounting {t ws} : s.abandoned = true →
    Moves (.counting t .crashed) .stopped s.workers ws →
    Step s .abort { s with workers := ws }
  | shutdown : Step s .shutdown { s with closers := s.closers ++ [.entering] }
  | win {cs} : s.phase = .active → Moves .entering .closing s.closers cs →
    Step s .win { s with phase := .draining, closers := cs }
  | lose {cs} : s.phase ≠ .active → Moves .entering .returned s.closers cs →
    Step s .lose { s with closers := cs }
  | closeQueue {cs} : Moves .closing .waiting s.closers cs →
    Step s .closeQueue { s with queue := s.queue.close, closers := cs }
  | join {cs} : (∀ w ∈ s.workers, w = .stopped) → Moves .waiting (.drained true) s.closers cs →
    Step s (.drained true) { s with closers := cs }
  | timeOut {cs} : Moves .waiting .cancelling s.closers cs →
    Step s .timeOut { s with closers := cs }
  | setCancelled {cs} : Moves .cancelling .waitingAgain s.closers cs →
    Step s .setCancelled { s with cancelled := true, closers := cs }
  | joinAgain {cs} : (∀ w ∈ s.workers, w = .stopped) →
    Moves .waitingAgain (.drained true) s.closers cs →
    Step s (.drained true) { s with closers := cs }
  | giveUp {cs} : Moves .waitingAgain (.drained false) s.closers cs →
    Step s (.drained false) { s with abandoned := true, closers := cs }
  | closeSink {all cs} : Moves (.drained all) .leaving s.closers cs →
    Step s .closeSink { s with closers := cs }
  | setClosed {cs} : Moves .leaving .returned s.closers cs →
    Step s .setClosed { s with phase := .closed, closers := cs }

/-- A state reached from another by steps, and what they did. -/
inductive Run (s : State) : List Event → State → Prop
  | nil : Run s [] s
  | snoc {es t e u} : Run s es t → Step t e u → Run s (es ++ [e]) u

/-- What becomes of a record in the end. -/
inductive Fate
  | refused
  | stored
  | failed
  | cancelled
deriving DecidableEq, Repr

/-- What an outcome of the sink means for a record. -/
@[simp] def Fate.ofDelivery : Delivery → Fate
  | .stored => .stored
  | .failed _ | .crashed => .failed

namespace Event

@[simp] def submits? : Event → Option Ticket
  | .call t => some t
  | _ => none

@[simp] def accepts? : Event → Option Ticket
  | .accept t => some t
  | _ => none

/-- The record whose fate a step decides. -/
@[simp] def decides? (f : Fate) : Event → Option Ticket
  | .turnAway t | .refuse t => if f = .refused then some t else none
  | .cancel t => if f = .cancelled then some t else none
  | .endStore t d => if f = Fate.ofDelivery d then some t else none
  | _ => none

@[simp] def beginsStore? : Event → Option Ticket
  | .beginStore t => some t
  | _ => none

/-- Whether a step is a part of a call to the store of the sink. -/
@[simp] def isStore : Event → Bool
  | .beginStore _ | .endStore _ _ => true
  | _ => false

end Event

/-- The records submitted, in the order of the calls. -/
def submitted (es : List Event) : List Ticket := es.filterMap Event.submits?

/-- The records that the queue took, in its order. -/
def accepted (es : List Event) : List Ticket := es.filterMap Event.accepts?

/-- The records of a fate, in the order in which it was decided. -/
def ended (f : Fate) (es : List Event) : List Ticket := es.filterMap (Event.decides? f)

/-- The records that the sink was called for. -/
def storeCalls (es : List Event) : List Ticket := es.filterMap Event.beginsStore?

/-- Whether all calls have returned, those that submit and those that shut down. -/
def State.AllReturned (s : State) : Prop :=
  (∀ c ∈ s.callers, ∃ t, c = .returned t) ∧ ∀ c ∈ s.closers, c = .returned

end AuditTrail.Dispatch.Threads
