import AuditTrail.Dispatch.Basic

/-! # Workers and shutdown

Workers take records in the order in which they wait. A shutdown gives them one period of grace
for all records and, once those that wait are cancelled, a second one for the records in flight;
after that it waits no longer, closes the sink and is over.
-/

namespace AuditTrail.Dispatch

/-- How many deliveries end within the two periods of grace. -/
structure Grace where
  first : Nat
  second : Nat := 0
deriving DecidableEq, Repr

namespace State

variable {ω : Type}

def withPool (s : State ω) (f : Pool → Pool) : State ω := { s with pool := s.pool.map f }

/-- A worker that is free takes the next record; one that is cancelled is dropped. -/
def take? (s : State ω) : Option (State ω) := do
  let pool ← s.pool
  if pool.workers ≤ pool.inFlight.length then none
  else
    let (r, queue) ← pool.queue.take?
    if pool.cancelled then
      some { s.count (·.countDropped) with pool := some { pool with queue } }
    else some { s with pool := some { pool with queue, inFlight := pool.inFlight ++ [r] } }

/-- Lets workers take as many as a number of records. -/
def takeUpTo (s : State ω) : Nat → State ω
  | 0 => s
  | n + 1 =>
    match s.take? with
    | some t => t.takeUpTo n
    | none => s

/-- Lets workers take what they can. -/
def takeAll (s : State ω) : State ω :=
  s.takeUpTo ((s.pool.map fun p => p.queue.items.length).getD 0)

def isDrained (s : State ω) : Bool := s.pool.all Pool.isDrained

def backlog (s : State ω) : Nat := (s.pool.map Pool.backlog).getD 0

end State

end Dispatch

open Dispatch (Grace Pool State)

namespace Dispatcher

variable {ω : Type}

/-- Ends the oldest delivery in flight. A breakdown that nobody looks after is not counted. -/
def finish (sink : Sink (State ω)) (now : Instant) : StateM (State ω) Unit := do
  let s ← get
  match s.pool with
  | none => return
  | some pool =>
    match pool.inFlight with
    | [] => return
    | r :: inFlight =>
      set { s with pool := some { pool with inFlight } }
      let delivery ← sink.store now r
      if !(pool.abandoned && delivery == .crashed) then
        modify fun s => s.count fun c => c.countDelivery delivery

/-- Lets workers take what they can and end a number of deliveries. -/
def work (sink : Sink (State ω)) (now : Instant) : Nat → StateM (State ω) Unit
  | 0 => modify State.takeAll
  | n + 1 => do
    modify State.takeAll
    finish sink now
    work sink now n

/-- Lets the workers of the dispatcher work. -/
def advance (d : Dispatcher ω) (now : Instant) (deliveries : Nat) : StateM (State ω) Unit :=
  match d.sink with
  | none => pure ()
  | some sink => work sink now deliveries

/-- Waits for the workers. -/
def drain (sink : Sink (State ω)) (now : Instant) (grace : Grace) : StateM (State ω) Unit := do
  modify fun s => s.withPool fun p => { p with queue := p.queue.close }
  work sink now grace.first
  if (← get).isDrained then return
  modify fun s => s.withPool fun p => { p with cancelled := true }
  work sink now grace.second
  if (← get).isDrained then return
  modify fun s => s.withPool fun p => { p with queue := p.queue.clear, abandoned := true }

/-- Stops taking records, waits for those that were taken and closes the sink. Only the first
shutdown does anything. -/
def shutdown (d : Dispatcher ω) (now : Instant) (grace : Grace) : StateM (State ω) Unit := do
  if (← get).phase != .active then return
  modify fun s => { s with phase := .draining }
  if let some sink := d.sink then
    drain sink now grace
    let _ ← sink.close
  modify fun s => { s with phase := .closed }

end Dispatcher

end AuditTrail
