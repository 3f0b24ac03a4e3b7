import AuditTrail.Proofs.Entries
import AuditTrail.Sink.Registry
import Mathlib.Data.List.Induction

/-! # Registries after calls

Constructors are put under keys in any order and under any spelling. What building a sink then gives
depends on the last constructor of each kind under the key alone: the basic one if it succeeds,
else the one that takes the resolver, else the reason of the failure.
-/

namespace AuditTrail.Sink.Registry

variable {σ : Type} {r : Registry σ}

/-! ## Calls -/

/-- A call on a registry. -/
inductive Call (σ : Type)
  | register (key : String) (c : Constructor σ)
  | registerResolving (key : String) (c : ResolvingConstructor σ)
  | create (key : String) (s : Settings) (h : Host σ)

namespace Call

/-- The registry after a call. Building a sink leaves it as it is. -/
def apply (r : Registry σ) : Call σ → Registry σ
  | register key c => r.register key c
  | registerResolving key c => r.registerResolving key c
  | create _ _ _ => r

end Call

/-- The registry after calls, one after the other. -/
def after (r : Registry σ) (calls : List (Call σ)) : Registry σ := calls.foldl Call.apply r

/-- Registries made by putting constructors under keys. -/
inductive Built : Registry σ → Prop
  | empty : Built {}
  | register {r : Registry σ} (h : Built r) (key : String) (c : Constructor σ) :
    Built (r.register key c)
  | registerResolving {r : Registry σ} (h : Built r) (key : String) (c : ResolvingConstructor σ) :
    Built (r.registerResolving key c)

/-- What building the sink of a key gives, from the constructors of each kind under the key. -/
inductive Outcome (key : String) (s : Settings) (h : Host σ) :
    Option (Constructor σ) → Option (ResolvingConstructor σ) → Except Error (Sink σ) → Prop
  | basic {c : Constructor σ} {resolving : Option (ResolvingConstructor σ)} {sink : Sink σ}
    (hc : c s h = .ok sink) : Outcome key s h (some c) resolving (.ok sink)
  | resolving {basic : Option (Constructor σ)} {c : ResolvingConstructor σ} {sink : Sink σ}
    (hb : ∀ b ∈ basic, ∃ e, b s h = .error e)
    (hc : c s h h.indexResolver h.cluster = .ok sink) :
    Outcome key s h basic (some c) (.ok sink)
  | resolvingFailed {basic : Option (Constructor σ)} {c : ResolvingConstructor σ} {e : Error}
    (hb : ∀ b ∈ basic, ∃ e, b s h = .error e)
    (hc : c s h h.indexResolver h.cluster = .error e) :
    Outcome key s h basic (some c) (.error (.sinkCreation (normalKey key) e.message))
  | basicFailed {c : Constructor σ} {e : Error} (hc : c s h = .error e) :
    Outcome key s h (some c) none (.error (.sinkCreation (normalKey key) e.message))
  | unknown : Outcome key s h none none (.error (.unknownSink key))

/-! ## Registrations -/

theorem Built.after (h : r.Built) (calls : List (Call σ)) : (after r calls).Built := by
  induction calls generalizing r with
  | nil => exact h
  | cons call calls ih =>
    cases call with
    | register key c => exact ih (h.register key c)
    | registerResolving key c => exact ih (h.registerResolving key c)
    | create _ _ _ => exact ih h

theorem Built.isSome (h : r.Built) {name : String} {registration : Registration σ}
    (hf : r.registrations.find? name = some registration) :
    registration.basic.isSome ∨ registration.resolving.isSome := by
  induction h with
  | empty => cases hf
  | register h key c ih =>
    rw [Registry.register, Table.find?_insert] at hf
    split at hf
    · obtain rfl := Option.some.inj hf
      exact Or.inl rfl
    · exact ih hf
  | registerResolving h key c ih =>
    rw [Registry.registerResolving, Table.find?_insert] at hf
    split at hf
    · obtain rfl := Option.some.inj hf
      exact Or.inr rfl
    · exact ih hf

/-! ## Building sinks -/

variable {key : String} {s : Settings} {host : Host σ} {basic : Option (Constructor σ)}
  {resolving : Option (ResolvingConstructor σ)} {x y : Except Error (Sink σ)}

/-- The constructors determine what building the sink gives. -/
theorem Outcome.unique (h : Outcome key s host basic resolving x)
    (h' : Outcome key s host basic resolving y) : x = y := by
  cases h with
  | basic hc =>
    cases h' with
    | basic hc' => exact hc.symm.trans hc'
    | resolving hb | resolvingFailed hb =>
      obtain ⟨e, he⟩ := hb _ rfl
      cases hc.symm.trans he
    | basicFailed hc' => cases hc.symm.trans hc'
  | resolving hb hc =>
    cases h' with
    | basic hc' =>
      obtain ⟨e, he⟩ := hb _ rfl
      cases hc'.symm.trans he
    | resolving _ hc' => exact hc.symm.trans hc'
    | resolvingFailed _ hc' => cases hc.symm.trans hc'
  | resolvingFailed hb hc =>
    cases h' with
    | basic hc' =>
      obtain ⟨e, he⟩ := hb _ rfl
      cases hc'.symm.trans he
    | resolving _ hc' => cases hc.symm.trans hc'
    | resolvingFailed _ hc' => rw [Except.error.inj (hc.symm.trans hc')]
  | basicFailed hc =>
    cases h' with
    | basic hc' => cases hc.symm.trans hc'
    | basicFailed hc' => rw [Except.error.inj (hc.symm.trans hc')]
  | unknown =>
    cases h'
    rfl

end AuditTrail.Sink.Registry
