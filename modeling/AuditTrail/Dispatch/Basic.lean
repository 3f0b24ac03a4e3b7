import AuditTrail.Dispatch.Config
import AuditTrail.Dispatch.Queue
import AuditTrail.Sink.Basic

/-! # Dispatch

Hands records to the sink, on the caller's thread or through a queue to a pool of workers, and
counts what becomes of them. Once shut down it takes no further records. Without a sink it does
nothing.
-/

namespace AuditTrail.Dispatch

/-- The life of a dispatcher, which only goes forward. -/
inductive Phase
  | active
  | draining
  | closed
deriving DecidableEq, Repr

def Phase.name : Phase → String
  | active => "active"
  | draining => "draining"
  | closed => "closed"

/-- Counts of records. They have no bound, so that none of them starts again from zero. -/
structure Counters where
  /-- Records taken for delivery. -/
  submitted : Nat := 0
  stored : Nat := 0
  failed : Nat := 0
  /-- Records that do not reach the sink. -/
  dropped : Nat := 0
deriving DecidableEq, Repr

namespace Counters

def countSubmitted (c : Counters) : Counters := { c with submitted := c.submitted + 1 }

def countDropped (c : Counters) : Counters := { c with dropped := c.dropped + 1 }

/-- Counts what became of a delivery. -/
def countDelivery (c : Counters) : Delivery → Counters
  | .stored => { c with stored := c.stored + 1 }
  | .failed _ | .crashed => { c with failed := c.failed + 1 }

end Counters

/-- The workers, and the records that wait for them. -/
structure Pool where
  workers : Nat
  queue : Queue Record
  /-- The records that workers have taken and not delivered yet, in the order of taking. -/
  inFlight : List Record := []
  /-- Whether the records that wait are to be dropped. -/
  cancelled : Bool := false
  /-- Whether nobody looks after the workers any more. -/
  abandoned : Bool := false

namespace Pool

def ofSettings (s : Settings) : Pool where
  workers := s.workerCount
  queue := { capacity := s.capacity }

/-- Whether all records taken for delivery are done with. -/
def isDrained (p : Pool) : Bool := p.queue.items.isEmpty && p.inFlight.isEmpty

/-- How many records taken for delivery are not done with. -/
def backlog (p : Pool) : Nat := p.queue.items.length + p.inFlight.length

end Pool

/-- The state of a dispatcher and of the world that its sink acts on. -/
structure State (ω : Type) where
  phase : Phase := .active
  counters : Counters := {}
  /-- None where records are delivered on the caller's thread. -/
  pool : Option Pool := none
  world : ω

namespace State

variable {ω : Type}

def count (s : State ω) (f : Counters → Counters) : State ω :=
  { s with counters := f s.counters }

/-- Runs what acts on the world alone. -/
def liftWorld {α : Type} (x : StateM ω α) : StateM (State ω) α := fun s =>
  let (a, world) := x s.world
  (a, { s with world })

end State

/-- A sink that acts on the world alone. -/
def liftSink {ω : Type} (sink : Sink ω) : Sink (State ω) where
  name := sink.name
  neverWaits := sink.neverWaits
  store now r := State.liftWorld (sink.store now r)
  close := State.liftWorld sink.close

end Dispatch

open Dispatch (Settings State)

structure Dispatcher (ω : Type) where
  settings : Settings
  sink : Option (Sink (State ω)) := none

namespace Dispatcher

variable {ω : Type}

def disabled : Dispatcher ω := { settings := .synchronous }

def isEnabled (d : Dispatcher ω) : Bool := d.sink.isSome

/-- Whether workers deliver the records. -/
def isPooled (d : Dispatcher ω) : Bool := d.isEnabled && d.settings.isPooled

/-- A dispatcher and the workers that it needs; none where they cannot be started. -/
def ofSettings? (settings : Settings) (sink : Option (Sink (State ω))) : Option (Dispatcher ω) :=
  let d : Dispatcher ω := { settings, sink }
  if d.isPooled && !settings.canStart then none else some d

/-- The state at the start. -/
def start (d : Dispatcher ω) (world : ω) : State ω where
  pool := if d.isPooled then some (.ofSettings d.settings) else none
  world

/-- Delivers a record. -/
def deliver (sink : Sink (State ω)) (now : Instant) (r : Record) : StateM (State ω) Unit := do
  let delivery ← sink.store now r
  modify fun s => s.count fun c => c.countDelivery delivery

/-- Takes a record for delivery, unless the dispatcher is shut down or the queue has no room. -/
def submit (d : Dispatcher ω) (now : Instant) (r : Record) : StateM (State ω) Unit := do
  let some sink := d.sink | return
  let s ← get
  if s.phase != .active then set (s.count (·.countDropped))
  else
    match s.pool with
    | none =>
      set (s.count (·.countSubmitted))
      deliver sink now r
    | some pool =>
      match pool.queue.offer? r with
      | some queue =>
        set { s.count (·.countSubmitted) with pool := some { pool with queue } }
      | none => set (s.count (·.countDropped))

end Dispatcher

end AuditTrail
