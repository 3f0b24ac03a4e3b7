import AuditTrail.Proofs.Dispatch.Correspondence
import AuditTrail.Proofs.Log.Runs
import AuditTrail.Proofs.Resolver.Fanout
import Mathlib.Data.List.Basic
import Mathlib.Data.Prod.Basic

/-! # What a log hands to its sink

Whatever is reported to a log, switched and closed in whatever order, and whenever its workers
work: each record that the sink is given is a record of one of the calls. Where two logs are told
corresponding things, their sinks are given corresponding records.
-/

namespace AuditTrail

/-- A sink that also keeps the records that it is given. -/
def Sink.journaled {ω : Type} (sink : Sink ω) : Sink (Surroundings (ω × List Record)) where
  name := sink.name
  neverWaits := sink.neverWaits
  store now r s :=
    let (delivery, w) := sink.store now r s.world.1
    (delivery, { s with world := (w, s.world.2 ++ [r]) })
  close s :=
    let (result, w) := sink.close s.world.1
    (result, { s with world := (w, s.world.2) })

namespace Log

open Dispatch (Grace Keep liftSink)

/-- What happens to a log: a step of its host or work of its workers. -/
inductive Act
  | step (x : Step)
  | work (now : Instant) (deliveries : Nat)

namespace Act

def step? : Act → Option Step
  | step x => some x
  | work .. => none

def run {ω : Type} (log : Log ω) (s : State ω) : Act → State ω
  | step x => x.run log s
  | work now deliveries => ((log.dispatcher.advance now deliveries).run s).2

end Act

/-- The state after some acts. -/
def proceed {ω : Type} (log : Log ω) (acts : List Act) (s : State ω) : State ω :=
  acts.foldl (Act.run log) s

/-- The calls of some acts. -/
def calls (flags : CategoryFlags) (acts : List Act) : List Made :=
  made flags (acts.filterMap Act.step?)

def Made.records (p : Recorder) (m : Made) : List Record := p.records m.flags m.now m.call

variable {ω : Type}

/-- The records that the sink was given. -/
def handed (s : State (ω × List Record)) : List Record := s.world.world.2

/-! ## Records of one call -/

section

variable {p : Recorder} {m : Made}

theorem Made.records_of_rest {q : RestRequest} (h : m.call.request = .rest q) :
    m.records p =
      if m.passes p then
        [Recorder.restRecord p.filter m.now m.call.report.event q m.call.context]
      else [] := by
  apply (Prod.mk_right_injective m.now).list_map
  refine (m.records_eq p).trans ?_
  simp only [resolved, h]
  split <;> rfl

theorem Made.records_of_transport {action : String} {a : Operation}
    (h : m.call.request = .transport action a) :
    m.records p =
      if m.passes p then
        p.resolver.resolve m.now ⟨p.filter.includeDetails, p.filter.resolveBulk⟩
          (Recorder.fullEvent m.call.report.event action m.call.context) a
      else [] := by
  apply (Prod.mk_right_injective m.now).list_map
  refine (m.records_eq p).trans ?_
  simp only [resolved, h]
  split <;> rfl

theorem Made.cases_of_mem_records {r : Record} (hr : r ∈ m.records p) :
    let event := m.call.report.event
    let scope : Scope := ⟨p.filter.includeDetails, p.filter.resolveBulk⟩
    m.passes p = true ∧
      ((∃ q, m.call.request = .rest q ∧
          r = Recorder.restRecord p.filter m.now event q m.call.context) ∨
        ∃ action a, m.call.request = .transport action a ∧
          ∃ b ∈ Resolver.recorded scope event.category a,
            r = p.resolver.record m.now scope.withDetails
              (Recorder.fullEvent event action m.call.context) (Resolver.batchShard scope a) b) := by
  intro event scope
  cases hq : m.call.request with
  | rest q =>
    rw [records_of_rest hq, List.mem_ite_nil_right, List.mem_singleton] at hr
    exact ⟨hr.1, Or.inl ⟨q, rfl, hr.2⟩⟩
  | transport action a =>
    rw [records_of_transport hq, List.mem_ite_nil_right, Resolver.resolve_eq_map] at hr
    obtain ⟨b, hb, he⟩ := List.mem_map.mp hr.2
    exact ⟨hr.1, Or.inr ⟨action, a, rfl, b, hb, he.symm⟩⟩

end

/-! ## Logs side by side -/

section

variable {ω' : Type} {R : Record → Record → Prop} {flags : CategoryFlags} {now now' : Instant}
variable {sink : Sink ω} {sink' : Sink ω'}
variable {log : Log (ω × List Record)} {log' : Log (ω' × List Record)}
variable {s : State (ω × List Record)} {s' : State (ω' × List Record)}

/-- Two sequences of acts differ in times and in calls with corresponding records at most. -/
inductive Likewise (R : Record → Record → Prop) (p p' : Recorder) :
    CategoryFlags → List Act → List Act → Prop
  | nil {flags : CategoryFlags} : Likewise R p p' flags [] []
  | call {flags : CategoryFlags} {now now' : Instant} {c c' : Call} {acts acts' : List Act} :
    List.Forall₂ R (p.records flags now c) (p'.records flags now' c') →
    Likewise R p p' flags acts acts' →
    Likewise R p p' flags (.step (.call now c) :: acts) (.step (.call now' c') :: acts')
  | change {flags : CategoryFlags} {c : CategoryFlags.Change} {acts acts' : List Act} :
    Likewise R p p' (flags.apply c) acts acts' →
    Likewise R p p' flags (.step (.change c) :: acts) (.step (.change c) :: acts')
  | close {flags : CategoryFlags} {now now' : Instant} {grace : Grace} {acts acts' : List Act} :
    Likewise R p p' flags acts acts' →
    Likewise R p p' flags (.step (.close now grace) :: acts) (.step (.close now' grace) :: acts')
  | work {flags : CategoryFlags} {now now' : Instant} {n : Nat} {acts acts' : List Act} :
    Likewise R p p' flags acts acts' →
    Likewise R p p' flags (.work now n :: acts) (.work now' n :: acts')

theorem Likewise.refl {p : Recorder} {acts : List Act}
    (h : ∀ m ∈ calls flags acts, ∀ r ∈ m.records p, R r r) : Likewise R p p flags acts acts := by
  induction acts generalizing flags with
  | nil => exact .nil
  | cons act acts ih =>
    cases act with
    | work now n => exact .work (ih h)
    | step x =>
      cases x with
      | call now c =>
        have h : ∀ m ∈ ⟨flags, now, c⟩ :: calls flags acts, ∀ r ∈ m.records p, R r r := h
        rw [List.forall_mem_cons] at h
        exact .call (List.forall₂_same.mpr h.1) (ih h.2)
      | change c => exact .change (ih h)
      | close now grace => exact .close (ih h)

/-- The switches are as given, and corresponding records were handed over. -/
structure Alike (R : Record → Record → Prop) (flags : CategoryFlags)
    (s : Surroundings (ω × List Record)) (s' : Surroundings (ω' × List Record)) : Prop where
  flags_left : s.flags = flags
  flags_right : s'.flags = flags
  journal : List.Forall₂ R s.world.2 s'.world.2

theorem keep_journaled (R : Record → Record → Prop) (flags : CategoryFlags) (sink : Sink ω)
    (sink' : Sink ω') : Keep R (Alike R flags) sink.journaled sink'.journaled where
  store _ _ _ _ _ _ hr hw := { hw with journal := List.rel_append hw.journal (.cons hr .nil) }
  close _ _ hw := { hw with }

theorem corresponds_submitAll (hl : log.dispatcher.sink = some (liftSink sink.journaled))
    (hl' : log'.dispatcher.sink = some (liftSink sink'.journaled))
    (h : s.Corresponds R (Alike R flags) s') {rs rs' : List Record} (hr : List.Forall₂ R rs rs') :
    ((log.submitAll now rs).run s).2.Corresponds R (Alike R flags)
      ((log'.submitAll now' rs').run s').2 := by
  induction hr generalizing s s' with
  | nil => exact h
  | cons hr _ ih =>
    exact ih (Dispatcher.corresponds_submit hl hl' (keep_journaled R flags sink sink') h hr)

theorem corresponds_handle (hl : log.dispatcher.sink = some (liftSink sink.journaled))
    (hl' : log'.dispatcher.sink = some (liftSink sink'.journaled))
    (h : s.Corresponds R (Alike R flags) s') {c c' : Call}
    (hr : List.Forall₂ R (log.recorder.records flags now c)
      (log'.recorder.records flags now' c')) :
    ((log.handle now c).run s).2.Corresponds R (Alike R flags)
      ((log'.handle now' c').run s').2 := by
  rw [handle_eq hl, handle_eq hl', h.world.flags_left, h.world.flags_right]
  exact corresponds_submitAll hl hl' h hr

theorem corresponds_proceed (hl : log.dispatcher.sink = some (liftSink sink.journaled))
    (hl' : log'.dispatcher.sink = some (liftSink sink'.journaled)) {acts acts' : List Act}
    (ha : Likewise R log.recorder log'.recorder flags acts acts')
    (h : s.Corresponds R (Alike R flags) s') :
    ∃ flags', (log.proceed acts s).Corresponds R (Alike R flags') (log'.proceed acts' s') := by
  induction ha generalizing s s' with
  | nil => exact ⟨_, h⟩
  | call hr _ ih => exact ih (corresponds_handle hl hl' h hr)
  | @change flags c _ _ _ ih =>
    have hw : Alike R (flags.apply c) ((changeFlags c).run s).2.world
        ((changeFlags c).run s').2.world :=
      ⟨congrArg (·.apply c) h.world.flags_left, congrArg (·.apply c) h.world.flags_right,
        h.world.journal⟩
    exact ih { h with world := hw }
  | close _ ih =>
    exact ih (Dispatcher.corresponds_shutdown hl hl' (keep_journaled R _ sink sink') h)
  | work _ ih =>
    exact ih (Dispatcher.corresponds_advance hl hl' (keep_journaled R _ sink sink') h _)

end

/-! ## Logs that are set up -/

theorem chosenSink_of_stated {ω : Type} {setup : Setup ω} {sink : Sink (State ω)}
    (hv : setup.config.isValid = true) (hs : setup.sink = some sink) :
    setup.chosenSink = some sink := by
  rw [Setup.chosenSink, if_pos hv, hs]
  rfl

/-- Neither the time nor what the sink answers decides which records are handed over. -/
theorem forall₂_handed {setup : Setup (ω × List Record)} {sink : Sink ω}
    (hs : setup.chosenSink = some (liftSink sink.journaled)) {R : Record → Record → Prop}
    {flags : CategoryFlags} {acts acts' : List Act}
    (ha : Likewise R setup.recorder setup.recorder flags acts acts') (w w' : ω) :
    List.Forall₂ R (handed ((build setup).proceed acts ((build setup).start (w, []) flags)))
      (handed ((build setup).proceed acts' ((build setup).start (w', []) flags))) := by
  have hw : Alike R flags ⟨flags, (w, [])⟩ ⟨flags, (w', [])⟩ := ⟨rfl, rfl, .nil⟩
  have hl : (build setup).dispatcher.sink = some (liftSink sink.journaled) := hs
  obtain ⟨_, h⟩ := corresponds_proceed hl hl ha (Dispatcher.corresponds_start rfl rfl hw)
  exact h.world.journal

/-- Each record that the sink is given belongs to one of the calls. -/
theorem mem_records_of_mem_handed {setup : Setup (ω × List Record)} {sink : Sink ω}
    (hs : setup.chosenSink = some (liftSink sink.journaled)) {w : ω} {flags : CategoryFlags}
    {acts : List Act} {r : Record}
    (hr : r ∈ handed ((build setup).proceed acts ((build setup).start (w, []) flags))) :
    ∃ m ∈ calls flags acts, r ∈ m.records setup.recorder := by
  have ha : Likewise (fun r _ => ∃ m ∈ calls flags acts, r ∈ m.records setup.recorder)
      setup.recorder setup.recorder flags acts acts := .refl fun m hm r hr => ⟨m, hm, hr⟩
  exact List.forall₂_same.mp (forall₂_handed hs ha w w) r hr

end Log

end AuditTrail
