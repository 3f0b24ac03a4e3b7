import AuditTrail.Config.Basic

/-! # Dispatch settings

How records reach the sink: on the caller's thread, or through a queue to a pool of workers.
-/

namespace AuditTrail.Dispatch

structure Settings where
  /-- The number of workers that is asked for. -/
  poolSize : Int := 10
  maxQueueLength : Nat := 100000
  graceMillis : Nat := 60000
deriving DecidableEq, Repr

namespace Settings

def synchronous : Settings := { poolSize := 0 }

def ofConfig (c : Config) : Settings where
  poolSize := c.threadpoolSize
  maxQueueLength := (max c.threadpoolMaxQueueLen 1).toNat
  graceMillis := c.shutdownGraceSeconds * 1000

def isPooled (s : Settings) : Bool := 0 < s.poolSize

/-- The number of workers, within bounds. -/
def workerCount (s : Settings) : Nat := (min (max s.poolSize 0) Config.maxThreadpoolSize).toNat

/-- How many records the queue holds at most. -/
def capacity (s : Settings) : Nat := max s.maxQueueLength 1

/-- The most records that any queue can have room for. -/
def maxCapacity : Nat := Nat.pow 2 61 - 1

/-- Whether workers and their queue can be started. -/
def canStart (s : Settings) : Bool :=
  0 < s.workerCount && 0 < s.capacity && s.capacity ≤ maxCapacity

end Settings

end AuditTrail.Dispatch
