import AuditTrail.Dispatch.Threads

/-! # Threads of a dispatcher without workers

A dispatcher without workers one access to shared state at a time. Callers take their records to
the sink themselves; if there is no sink, they have nothing to do. Any thread may make the next
step.
-/

namespace AuditTrail.Dispatch.Direct

open Threads (Closer Moves Ticket)

/-- How far a call that submits a record has come. -/
inductive Caller
  /-- Has yet to read the phase. -/
  | entering (t : Ticket)
  /-- Found the dispatcher active and has yet to count the record. -/
  | admitted (t : Ticket)
  /-- Found it shut down and has yet to count the record. -/
  | refused (t : Ticket)
  /-- Has counted the record and has yet to call the sink. -/
  | ready (t : Ticket)
  /-- Waits for the sink. -/
  | storing (t : Ticket)
  | counting (t : Ticket) (d : Delivery)
  | returned (t : Ticket)

structure State where
  phase : Phase := .active
  counters : Counters := {}
  callers : List Caller := []
  closers : List Closer := []

/-- The steps of all threads. A shutdown has no workers to wait for. -/
inductive Step (sink : Bool) (s : State) : Threads.Event → State → Prop
  | call (r : Record) : sink = true →
    Step sink s (.call ⟨s.callers.length, r⟩)
      { s with callers := s.callers ++ [.entering ⟨s.callers.length, r⟩] }
  | pass (r : Record) : sink = false →
    Step sink s (.call ⟨s.callers.length, r⟩)
      { s with callers := s.callers ++ [.returned ⟨s.callers.length, r⟩] }
  | enter {t cs} : s.phase = .active → Moves (.entering t) (.admitted t) s.callers cs →
    Step sink s (.enter t) { s with callers := cs }
  | turnAway {t cs} : s.phase ≠ .active → Moves (.entering t) (.refused t) s.callers cs →
    Step sink s (.turnAway t) { s with callers := cs }
  | countTaken {t cs} : Moves (.admitted t) (.ready t) s.callers cs →
    Step sink s (.countCall t) { s with counters := s.counters.countSubmitted, callers := cs }
  | countRefused {t cs} : Moves (.refused t) (.returned t) s.callers cs →
    Step sink s (.countCall t) { s with counters := s.counters.countDropped, callers := cs }
  | beginStore {t cs} : Moves (.ready t) (.storing t) s.callers cs →
    Step sink s (.beginStore t) { s with callers := cs }
  | endStore {t cs d} : d ≠ .crashed → Moves (.storing t) (.counting t d) s.callers cs →
    Step sink s (.endStore t d) { s with callers := cs }
  /-- A breakdown of the sink ends the call, and nothing is counted. -/
  | crash {t cs} : Moves (.storing t) (.returned t) s.callers cs →
    Step sink s (.endStore t .crashed) { s with callers := cs }
  | countDelivery {t d cs} : Moves (.counting t d) (.returned t) s.callers cs →
    Step sink s (.countRecord t) { s with counters := s.counters.countDelivery d, callers := cs }
  | shutdown : Step sink s .shutdown { s with closers := s.closers ++ [.entering] }
  | win {cs} : sink = true → s.phase = .active → Moves .entering (.drained true) s.closers cs →
    Step sink s .win { s with phase := .draining, closers := cs }
  | winAlone {cs} : sink = false → s.phase = .active → Moves .entering .leaving s.closers cs →
    Step sink s .win { s with phase := .draining, closers := cs }
  | lose {cs} : s.phase ≠ .active → Moves .entering .returned s.closers cs →
    Step sink s .lose { s with closers := cs }
  | closeSink {cs} : Moves (.drained true) .leaving s.closers cs →
    Step sink s .closeSink { s with closers := cs }
  | setClosed {cs} : Moves .leaving .returned s.closers cs →
    Step sink s .setClosed { s with phase := .closed, closers := cs }

end AuditTrail.Dispatch.Direct
