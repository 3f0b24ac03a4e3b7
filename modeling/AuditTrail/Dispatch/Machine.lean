import AuditTrail.Dispatch.Direct
import Mathlib.Data.List.Induction

/-! # Dispatchers as machines

A dispatcher delivers through workers, on the threads of its callers, or not at all. Each way it
is a machine that goes from state to state by steps of its threads.
-/

namespace AuditTrail.Dispatch

open Threads (Closer Ticket)

/-- A dispatcher and its threads. -/
structure Machine where
  State : Type
  start : State
  Step : State → Threads.Event → State → Prop
  phase : State → Phase
  counters : State → Counters
  closers : State → List Closer
  /-- All of a state but its shutdowns. -/
  apart : State → State
  /-- Whether the call that submits a record has returned. -/
  HasReturned : State → Ticket → Prop

/-- A state reached from another by steps, and what they did. -/
inductive Machine.Run (M : Machine) (s : M.State) : List Threads.Event → M.State → Prop
  | nil : Run M s [] s
  | snoc {es t e u} : Run M s es t → M.Step t e u → Run M s (es ++ [e]) u

theorem Machine.Run.trans {M : Machine} {s t u : M.State} {es es' : List Threads.Event}
    (h : M.Run s es t) (h' : M.Run t es' u) : M.Run s (es ++ es') u := by
  induction h' with
  | nil => rwa [List.append_nil]
  | snoc _ hs ih =>
    rw [← List.append_assoc]
    exact ih.snoc hs

theorem Machine.Run.exists_of_snoc {M : Machine} {s u : M.State} {es : List Threads.Event}
    {e : Threads.Event} (h : M.Run s (es ++ [e]) u) : ∃ t, M.Run s es t ∧ M.Step t e u := by
  generalize hl : es ++ [e] = l at h
  cases h with
  | nil => simp at hl
  | @snoc _ t _ _ h hs =>
    obtain ⟨rfl, he⟩ := List.append_inj' hl rfl
    exact ⟨t, h, List.singleton_inj.mp he ▸ hs⟩

theorem Machine.Run.exists_of_append {M : Machine} {s u : M.State} {es es' : List Threads.Event}
    (h : M.Run s (es ++ es') u) : ∃ t, M.Run s es t ∧ M.Run t es' u := by
  induction es' using List.reverseRecOn generalizing u with
  | nil => exact ⟨u, es.append_nil ▸ h, .nil⟩
  | append_singleton es' e ih =>
    rw [← List.append_assoc] at h
    obtain ⟨t, ht, hs⟩ := h.exists_of_snoc
    obtain ⟨v, hv, hr⟩ := ih ht
    exact ⟨v, hv, hr.snoc hs⟩

/-- How a dispatcher delivers. -/
inductive Mode
  | pooled (workers capacity : Nat)
  | direct
  /-- There is no sink. -/
  | disabled

/-- The machine of a dispatcher without workers. -/
def Direct.machine (sink : Bool) : Machine where
  State := Direct.State
  start := {}
  Step := Direct.Step sink
  phase := Direct.State.phase
  counters := Direct.State.counters
  closers := Direct.State.closers
  apart s := { s with closers := [] }
  HasReturned s t := .returned t ∈ s.callers

/-- The machine of a dispatcher with workers. -/
def Threads.machine (workers capacity : Nat) : Machine where
  State := Threads.State
  start := Threads.start workers capacity
  Step := Threads.Step
  phase := Threads.State.phase
  counters := Threads.State.counters
  closers := Threads.State.closers
  apart s := { s with closers := [] }
  HasReturned s t := .returned t ∈ s.callers

def Mode.machine : Mode → Machine
  | pooled workers capacity => Threads.machine workers capacity
  | direct => Direct.machine true
  | disabled => Direct.machine false

end AuditTrail.Dispatch
