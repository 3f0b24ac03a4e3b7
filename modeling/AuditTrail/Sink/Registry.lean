import AuditTrail.Cluster
import AuditTrail.Sink.Console
import AuditTrail.Sink.Storage

/-! # Registry of sinks

Constructors of sinks under keys, blanks around a key and the case of its ASCII letters apart. A
key may have a basic constructor and one that also takes the resolver of indices; the basic one
is tried first.
-/

namespace AuditTrail

namespace Sink

/-- What the host offers to sinks. -/
structure Host (σ : Type) where
  configIndex : String := "searchguard"
  documentStore : Option (DocumentStore σ) := none
  indexResolver : Option IndexResolver := none
  cluster : Option Cluster := none

abbrev Constructor (σ : Type) := Settings → Host σ → Except Error (Sink σ)

abbrev ResolvingConstructor (σ : Type) :=
  Settings → Host σ → Option IndexResolver → Option Cluster → Except Error (Sink σ)

/-- The constructors under one key. -/
structure Registration (σ : Type) where
  basic : Option (Constructor σ) := none
  resolving : Option (ResolvingConstructor σ) := none

structure Registry (σ : Type) where
  registrations : Table (Registration σ) := {}

namespace Registry

variable {σ : Type}

def normalKey (key : String) : String := (Text.trim key).toLower

def registration (r : Registry σ) (key : String) : Registration σ :=
  (r.registrations.find? (normalKey key)).getD {}

/-- Puts a basic constructor under a key. -/
def register (r : Registry σ) (key : String) (c : Constructor σ) : Registry σ where
  registrations :=
    r.registrations.insert (normalKey key) { r.registration key with basic := some c }

/-- Puts a constructor that takes the resolver under a key. -/
def registerResolving (r : Registry σ) (key : String) (c : ResolvingConstructor σ) :
    Registry σ where
  registrations :=
    r.registrations.insert (normalKey key) { r.registration key with resolving := some c }

def contains (r : Registry σ) (key : String) : Bool :=
  (r.registrations.find? (normalKey key)).isSome

/-- All keys in ascending order. -/
def keys (r : Registry σ) : List String := r.registrations.keys

/-- What the constructor that takes the resolver gives, with the reason for its failure. -/
def constructResolving (key : String) (c : ResolvingConstructor σ) (s : Settings) (h : Host σ) :
    Except Error (Sink σ) :=
  (c s h h.indexResolver h.cluster).mapError fun e => .sinkCreation key e.message

/-- Tries the constructors of a registration; the last one that fails gives the reason. -/
def construct (key : String) (r : Registration σ) (s : Settings) (h : Host σ) :
    Except Error (Sink σ) :=
  match r.basic, r.resolving with
  | some basic, resolving =>
    match basic s h, resolving with
    | .ok sink, _ => .ok sink
    | .error _, some c => constructResolving key c s h
    | .error e, none => .error (.sinkCreation key e.message)
  | none, some c => constructResolving key c s h
  | none, none => .error (.sinkCreation key "no constructor registered")

/-- Builds the sink of a key. -/
def create (r : Registry σ) (key : String) (s : Settings) (h : Host σ) :
    Except Error (Sink σ) :=
  match r.registrations.find? (normalKey key) with
  | none => .error (.unknownSink key)
  | some registration => construct (normalKey key) registration s h

/-- Writes to the host's own store. -/
def storageConstructor : Constructor σ := fun s h =>
  match h.documentStore with
  | none => .error (.config "storage sink requires a document store")
  | some store => .ok ((Storage.ofSettings "storage" s).sink store)

/-- The sinks that need nothing but the host and a console. -/
def builtins (console : Console σ) : Registry σ :=
  (({} : Registry σ).register "debug" fun _ _ => .ok console.sink).register
    "internal_elasticsearch" storageConstructor

end Registry

end Sink

end AuditTrail
