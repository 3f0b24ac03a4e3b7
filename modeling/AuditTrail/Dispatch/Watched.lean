import AuditTrail.Dispatch.Threads

/-! # Readers of the counters

Whoever asks for the counters of a pooled dispatcher reads them one after the other, and the other
threads go on between two readings. What is returned need never have been the values of all four
at one time.
-/

namespace AuditTrail.Dispatch.Watched

/-- How far a call that asks for the counters has come, and what it has read. -/
inductive Reader
  | entering
  | submitted (submitted : Nat)
  | stored (submitted stored : Nat)
  | failed (submitted stored failed : Nat)
  | returned (c : Counters)

/-- Reads the next counter. -/
def Reader.read? (c : Counters) : Reader → Option Reader
  | entering => some (submitted c.submitted)
  | submitted n => some (stored n c.stored)
  | stored n m => some (failed n m c.failed)
  | failed n m k => some (returned ⟨n, m, k, c.dropped⟩)
  | returned _ => none

structure State where
  threads : Threads.State
  readers : List Reader := []

/-- The state at the start. -/
def start (workers capacity : Nat) : State where
  threads := Threads.start workers capacity

/-- What a step does. -/
inductive Event
  | thread (e : Threads.Event)
  | ask
  | read (reader : Nat)

@[simp] def Event.thread? : Event → Option Threads.Event
  | thread e => some e
  | ask | read _ => none

/-- The steps of all threads. -/
inductive Step (s : State) : Event → State → Prop
  | thread {e t} : Threads.Step s.threads e t → Step s (.thread e) { s with threads := t }
  | ask : Step s .ask { s with readers := s.readers ++ [.entering] }
  | read {i r r'} : s.readers[i]? = some r → r.read? s.threads.counters = some r' →
    Step s (.read i) { s with readers := s.readers.set i r' }

/-- A state reached from another by steps, and what they did. -/
inductive Run (s : State) : List Event → State → Prop
  | nil : Run s [] s
  | snoc {es t e u} : Run s es t → Step t e u → Run s (es ++ [e]) u

end AuditTrail.Dispatch.Watched
