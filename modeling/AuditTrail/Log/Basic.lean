import AuditTrail.Dispatch.Drain
import AuditTrail.Log.Records
import AuditTrail.Sink.Registry

/-! # The audit log

Takes reports, makes records of them and hands the records to the dispatcher. Nothing that goes
wrong on the way reaches whoever reports.
-/

namespace AuditTrail

/-- What a log runs in: the switches of the categories and the world that its sink acts on. -/
structure Surroundings (ω : Type) where
  flags : CategoryFlags := .allOn
  world : ω

structure Log (ω : Type) where
  recorder : Recorder
  dispatcher : Dispatcher (Surroundings ω)

namespace Log

variable {ω : Type}

/-- The state of a log that runs. -/
abbrev State (ω : Type) := Dispatch.State (Surroundings ω)

/-- Runs what acts on the world of a log alone. -/
def liftWorld {α : Type} (x : StateM ω α) : StateM (State ω) α :=
  Dispatch.State.liftWorld fun s =>
    let (a, world) := x s.world
    (a, { s with world })

/-- A store that acts on the world of a log alone. -/
def liftStore (store : DocumentStore ω) : DocumentStore (State ω) where
  write d := liftWorld (store.write d)

/-! ## Setting up -/

/-- What a log is made of. -/
structure Setup (ω : Type) where
  config : Config
  /-- What compiles the patterns of the configuration and of requests. -/
  engine : Pattern.Engine := Pattern.Regex.engine
  /-- The sinks that the configuration can name. -/
  registry : Sink.Registry (State ω)
  host : Sink.Host (State ω) := {}
  /-- A sink to use whatever the configuration names. -/
  sink : Option (Sink (State ω)) := none

namespace Setup

/-- The sink that the configuration names, if it can be built. -/
def namedSink (s : Setup ω) : Option (Sink (State ω)) :=
  s.config.sinkType.bind fun key => (s.registry.create key s.config.sink s.host).toOption

/-- The sink to use; an unusable configuration leaves none. -/
def chosenSink (s : Setup ω) : Option (Sink (State ω)) :=
  if s.config.isValid then s.sink <|> s.namedSink else none

def recorder (s : Setup ω) : Recorder where
  filter := .ofConfig s.engine s.config
  resolver :=
    { engine := s.engine
      configIndex := s.config.configIndex
      resolveIndices := s.config.resolveIndices
      indexResolver := s.host.indexResolver
      cluster := if s.host.indexResolver.isSome then s.host.cluster else none }

end Setup

/-- The log of a setup; without a sink it records nothing. -/
def build (s : Setup ω) : Log ω where
  recorder := s.recorder
  dispatcher := { settings := .ofConfig s.config, sink := s.chosenSink }

/-- The log of a setup, unless the workers of its dispatcher cannot be started. -/
def build? (s : Setup ω) : Option (Log ω) := do
  let dispatcher ← Dispatcher.ofSettings? (.ofConfig s.config) s.chosenSink
  return { recorder := s.recorder, dispatcher }

/-- A log that records nothing. -/
def disabled : Log ω where
  recorder :=
    { filter := .ofConfig Pattern.Regex.engine { sink := .empty }
      resolver := { configIndex := "searchguard" } }
  dispatcher := .disabled

/-- The state at the start. -/
def start (log : Log ω) (world : ω) (flags : CategoryFlags := .allOn) : State ω :=
  log.dispatcher.start { flags, world }

/-! ## Running -/

/-- Hands records to the dispatcher one after the other. -/
def submitAll (log : Log ω) (now : Instant) : List Record → StateM (State ω) Unit
  | [] => pure ()
  | r :: rest => do
    log.dispatcher.submit now r
    submitAll log now rest

/-- Takes a report. The clock is read once for it: the time stands in all records of the report,
and is that at which the sink stores them. -/
def handle (log : Log ω) (now : Instant) (call : Call) : StateM (State ω) Unit := do
  if !log.dispatcher.isEnabled then return
  log.submitAll now (log.recorder.records (← get).world.flags now call)

/-- Changes the switches of the categories. -/
def changeFlags (change : CategoryFlags.Change) : StateM (State ω) Unit :=
  modify fun s => { s with world := { s.world with flags := s.world.flags.apply change } }

/-- Shuts the log down; it may be shut down more than once. -/
def close (log : Log ω) (now : Instant) (grace : Dispatch.Grace) : StateM (State ω) Unit :=
  log.dispatcher.shutdown now grace

end Log

end AuditTrail
