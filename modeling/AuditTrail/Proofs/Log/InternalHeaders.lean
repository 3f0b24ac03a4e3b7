import AuditTrail.Proofs.Entries
import AuditTrail.Proofs.Log.ProtectedPaths

/-! # Internal headers

Headers of the pipeline's own are not recorded, and every other header of a request is. Where a
context states who sends the request, from where and through which layer, these headers decide
nothing beyond whether the request is a write of the pipeline itself.
-/

namespace AuditTrail

/-- Whether a header is one of the pipeline's own. -/
def IsInternalHeader (name : String) : Prop := internalHeaderStart.isPrefixOf name = true

instance (name : String) : Decidable (IsInternalHeader name) :=
  inferInstanceAs (Decidable (_ = true))

/-! ## Contexts -/

namespace Context

theorem find?_auditHeaders (c : Context) (name : String) :
    c.auditHeaders.find? name = if IsInternalHeader name then none else c.headers.find? name := by
  rw [auditHeaders, Table.find?_filter]
  by_cases h : internalHeaderStart.isPrefixOf name = true <;> simp [IsInternalHeader, h]

/-- Two contexts state a user, an address and an origin, the same ones, and differ at most in
headers of the pipeline's own that do not mark its writes. -/
structure SaysSame (c c' : Context) : Prop where
  origin : c.origin = c'.origin
  user : c.user = c'.user
  remoteAddress : c.remoteAddress = c'.remoteAddress
  task : c.task = c'.task
  headers : ∀ name, ¬ IsInternalHeader name → c.headers.find? name = c'.headers.find? name
  isInternalWrite : c.isInternalWrite = c'.isInternalWrite
  hasOrigin : c.origin.isSome = true
  hasUser : c.user.isSome = true
  hasRemoteAddress : c.remoteAddress.isSome = true

namespace SaysSame

variable {c c' : Context}

theorem auditHeaders (h : c.SaysSame c') : c.auditHeaders = c'.auditHeaders := by
  refine Table.ext_find? fun name => ?_
  rw [find?_auditHeaders, find?_auditHeaders]
  by_cases hi : IsInternalHeader name
  · rw [if_pos hi, if_pos hi]
  · rw [if_neg hi, if_neg hi, h.headers name hi]

theorem resolveUser (h : c.SaysSame c') (stated : Option String) :
    c.resolveUser stated = c'.resolveUser stated := by
  obtain ⟨u, hu⟩ := Option.isSome_iff_exists.mp h.hasUser
  have hu' : c'.user = some u := h.user ▸ hu
  rw [Context.resolveUser, Context.resolveUser, hu, hu']
  cases stated <;> rfl

theorem resolveRemoteAddress (h : c.SaysSame c') :
    c.resolveRemoteAddress = c'.resolveRemoteAddress := by
  obtain ⟨a, ha⟩ := Option.isSome_iff_exists.mp h.hasRemoteAddress
  have ha' : c'.remoteAddress = some a := h.remoteAddress ▸ ha
  rw [Context.resolveRemoteAddress, Context.resolveRemoteAddress, ha, ha']
  rfl

theorem resolveOrigin (h : c.SaysSame c') (stated : Option Origin) :
    c.resolveOrigin stated = c'.resolveOrigin stated := by
  obtain ⟨o, ho⟩ := Option.isSome_iff_exists.mp h.hasOrigin
  have ho' : c'.origin = some o := h.origin ▸ ho
  rw [Context.resolveOrigin, Context.resolveOrigin, ho, ho']
  cases stated <;> rfl

end SaysSame

end Context

/-! ## Records -/

/-- A record shows the headers of a request that are none of the pipeline's own, and no others. -/
structure Record.ShowsHeaders (headers : Table String) (r : Record) : Prop where
  shown : ∀ v, r.value? .headers = some v → ∃ members, v = .object members ∧
    ∀ m ∈ members, ¬ IsInternalHeader m.1 ∧ ∃ t, headers.find? m.1 = some t ∧ m.2 = .string t
  all : ∀ name t, headers.find? name = some t → ¬ IsInternalHeader name →
    ∃ members, r.value? .headers = some (.object members) ∧
      Entries.find? name members = some (.string t)

theorem Record.showsHeaders_of_table (start : Record) {r : Record} {c : Context}
    (hr : r.value? .headers = (start.table .headers c.auditHeaders).value? .headers)
    (hn : start.value? .headers = none) : r.ShowsHeaders c.headers := by
  rw [value?_table_self hn] at hr
  constructor
  · intro v hv
    rw [hr, Option.ite_none_left_eq_some, Option.some.injEq] at hv
    refine ⟨_, hv.2.symm, fun m hm => ?_⟩
    obtain ⟨e, he, rfl⟩ := List.mem_map.mp hm
    have hf := (Entries.find?_eq_some_iff c.auditHeaders.ascending).mpr he
    rw [← Table.find?, Context.find?_auditHeaders, Option.ite_none_left_eq_some] at hf
    exact ⟨hf.1, e.2, hf.2, rfl⟩
  · intro name t ht hi
    have hf : c.auditHeaders.find? name = some t := by
      rw [Context.find?_auditHeaders, if_neg hi, ht]
    have hne : c.auditHeaders.entries ≠ [] := by
      intro he
      rw [Table.find?, he] at hf
      cases hf
    refine ⟨_, hr.trans (if_neg hne), ?_⟩
    rw [Entries.find?_map, ← Table.find?, hf]
    rfl

namespace Recorder

variable {p : Recorder} {f : Filter} {flags : CategoryFlags} {now : Instant} {event : Event}
variable {c c' : Context}

theorem showsHeaders_restRecord (q : RestRequest) :
    (restRecord f now event q c).ShowsHeaders c.headers := by
  refine Record.showsHeaders_of_table _ (Record.value?_text_of_ne (by decide) _) ?_
  simp

theorem restRecord_congr (h : c.SaysSame c') (q : RestRequest) :
    restRecord f now event q c = restRecord f now event q c' := by
  rw [restRecord, restRecord, h.resolveUser, h.resolveRemoteAddress, h.auditHeaders]

theorem fullEvent_congr (h : c.SaysSame c') (action : String) :
    fullEvent event action c = fullEvent event action c' := by
  rw [fullEvent, fullEvent, h.resolveOrigin, h.resolveUser, h.resolveRemoteAddress,
    h.auditHeaders, h.task]

theorem subject_congr (h : c.SaysSame c') (request : Request) :
    subject event request c = subject event request c' := by
  simp only [subject, h.resolveUser]

theorem records_congr (h : c.SaysSame c') (report : Report) (request : Request) :
    p.records flags now ⟨report, request, c⟩ = p.records flags now ⟨report, request, c'⟩ := by
  simp only [records, h.isInternalWrite, subject_congr h, restRecord_congr h, fullEvent_congr h]

end Recorder

theorem Resolver.showsHeaders_record (r : Resolver) (now : Instant) (withDetails : Bool)
    {event : Event} {c : Context} (he : event.headers = c.auditHeaders) (shard : Option Shard)
    (a : Operation) : (r.record now withDetails event shard a).ShowsHeaders c.headers := by
  rw [record_eq, he]
  refine Record.showsHeaders_of_table ((r.recordHead now event shard a.typeName
    (a.extract withDetails)).text .requestBody (r.shownSource (a.extract withDetails))) ?_ ?_
  · rw [value?_withTask_of_ne _ _ (by decide) (by decide), Record.value?_text_of_ne (by decide)]
  · simp [recordHead]

/-! ## Runs of a log -/

/-- A sink answers alike to records that say the same, whenever they come. What decides about its
answers in its world is what `W` relates. -/
structure Sink.AnswersAlike {ω : Type} (W : ω → ω → Prop) (sink : Sink ω) : Prop
    extends Dispatch.Keep Record.SaysSame W sink sink where
  refl : ∀ w, W w w
  answer : ∀ now now' r r' w w', Record.SaysSame r r' → W w w' →
    ((sink.store now r).run w).1 = ((sink.store now' r').run w').1

namespace Log

open Dispatch (Grace Keep liftSink)

/-- Two acts differ in times, as far as `T` lets them, and in contexts that say the same. -/
inductive Act.Restates (T : Instant → Instant → Prop) : Act → Act → Prop
  | call {now now' : Instant} (ht : T now now') (c : Call) :
    Restates T (.step (.call now c)) (.step (.call now' c))
  | context {now now' : Instant} (ht : T now now') {c c' : Context} (hc : c.SaysSame c')
    (report : Report) (request : Request) :
    Restates T (.step (.call now ⟨report, request, c⟩)) (.step (.call now' ⟨report, request, c'⟩))
  | change (c : CategoryFlags.Change) : Restates T (.step (.change c)) (.step (.change c))
  | close {now now' : Instant} (ht : T now now') (grace : Grace) :
    Restates T (.step (.close now grace)) (.step (.close now' grace))
  | work {now now' : Instant} (ht : T now now') (deliveries : Nat) :
    Restates T (.work now deliveries) (.work now' deliveries)

variable {p : Recorder} {m : Made} {r : Record}

theorem Made.showsHeaders_of_mem_records (hr : r ∈ m.records p) :
    r.ShowsHeaders m.call.context.headers := by
  obtain ⟨-, ⟨q, -, rfl⟩ | ⟨action, a, -, b, -, rfl⟩⟩ := m.cases_of_mem_records hr
  · exact Recorder.showsHeaders_restRecord q
  · exact Resolver.showsHeaders_record _ _ _ rfl _ _

variable {T : Instant → Instant → Prop} {flags : CategoryFlags} {acts acts' : List Act}

theorem likewise_of_restates (h : List.Forall₂ (Act.Restates T) acts acts') :
    Likewise Record.SaysSame p p flags acts acts' := by
  induction h generalizing flags with
  | nil => exact .nil
  | cons ha _ ih =>
    cases ha with
    | call _ c => exact .call (saysSame_records p flags _ _ c) ih
    | context _ hc report request =>
      refine .call ?_ ih
      rw [← Recorder.records_congr hc]
      exact saysSame_records p flags _ _ _
    | change c => exact .change ih
    | close _ grace => exact .close ih
    | work _ n => exact .work ih

variable {ω : Type}

theorem handle_of_saysSame (log : Log ω) (now : Instant) {c c' : Context} (h : c.SaysSame c')
    (report : Report) (request : Request) :
    log.handle now ⟨report, request, c⟩ = log.handle now ⟨report, request, c'⟩ := by
  simp only [handle, Recorder.records_congr h]

theorem proceed_of_restates (log : Log ω) (h : List.Forall₂ (Act.Restates Eq) acts acts')
    (s : State ω) : log.proceed acts' s = log.proceed acts s := by
  induction h generalizing s with
  | nil => rfl
  | @cons a a' _ _ ha _ ih =>
    have hr : a'.run log s = a.run log s := by
      cases ha with
      | context ht hc report request =>
        subst ht
        change ((log.handle _ _).run s).2 = ((log.handle _ _).run s).2
        rw [handle_of_saysSame log _ hc]
      | change c => rfl
      | call ht | close ht | work ht =>
        subst ht
        rfl
    change log.proceed _ (a'.run log s) = log.proceed _ (a.run log s)
    rw [hr, ih]

section

variable {log : Log (ω × List Record)} {sink : Sink ω} {s s' : State (ω × List Record)}
variable {W : ω → ω → Prop} {now now' : Instant}

/-- The worlds of a log are related as the worlds of its sink are. -/
def WorldRel (W : ω → ω → Prop) (s s' : Surroundings (ω × List Record)) : Prop :=
  W s.world.1 s'.world.1

theorem keep_worldRel (h : sink.AnswersAlike W) :
    Keep Record.SaysSame (WorldRel W) sink.journaled sink.journaled where
  store now now' r r' _ _ hr hw := h.store now now' r r' _ _ hr hw
  close _ _ hw := h.close _ _ hw

theorem counters_submitAll (hl : log.dispatcher.sink = some (liftSink sink.journaled))
    (ha : sink.AnswersAlike W) {rs rs' : List Record} (hr : List.Forall₂ Record.SaysSame rs rs')
    (h : s.Corresponds Record.SaysSame (WorldRel W) s') (hc : s.counters = s'.counters) :
    ((log.submitAll now rs).run s).2.counters = ((log.submitAll now' rs').run s').2.counters := by
  induction hr generalizing s s' with
  | nil => exact hc
  | @cons r r' _ _ hr _ ih =>
    refine ih (Dispatcher.corresponds_submit hl hl (keep_worldRel ha) h hr) ?_
    exact Dispatcher.counters_submit hl hl h hc hr (ha.answer now now' r r' _ _ hr h.world)

theorem counters_handle (hl : log.dispatcher.sink = some (liftSink sink.journaled))
    (ha : sink.AnswersAlike W) (now now' : Instant) {c c' : Context} (h : c.SaysSame c')
    (report : Report) (request : Request) (s : State (ω × List Record)) :
    ((log.handle now ⟨report, request, c⟩).run s).2.counters =
      ((log.handle now' ⟨report, request, c'⟩).run s).2.counters := by
  rw [← handle_of_saysSame log now' h, handle_eq hl, handle_eq hl]
  refine counters_submitAll hl ha (saysSame_records _ _ now now' _) ⟨rfl, ?_, ha.refl _⟩ rfl
  cases s.pool with
  | none => exact .none
  | some p =>
    have hq : p.queue.Corresponds Record.SaysSame p.queue :=
      ⟨rfl, rfl, List.forall₂_same.mpr fun _ _ => ⟨rfl, rfl⟩⟩
    exact .some ⟨rfl, hq, List.forall₂_same.mpr fun _ _ => ⟨rfl, rfl⟩, rfl⟩

end

/-- Records show the headers of their calls, the pipeline's own apart. Where contexts state a user,
an address and an origin, the pipeline's own headers make no difference, as long as they mark the
same calls as writes of the pipeline: at the same times not to the state of the log and its sink
either, and at other times not to what the records say and how they are counted. -/
theorem handed_of_internal_headers {setup : Setup (ω × List Record)} {sink : Sink ω}
    (hs : setup.chosenSink = some (liftSink sink.journaled)) :
    let log := build setup
    let run w flags acts := handed (log.proceed acts (log.start (w, []) flags))
    (∀ w flags acts, ∀ r ∈ run w flags acts, ∃ m ∈ calls flags acts,
      r ∈ m.records setup.recorder ∧ r.ShowsHeaders m.call.context.headers) ∧
    (∀ acts acts', List.Forall₂ (Act.Restates Eq) acts acts' →
      ∀ s, log.proceed acts' s = log.proceed acts s) ∧
    (∀ acts acts', List.Forall₂ (Act.Restates fun _ _ => True) acts acts' →
      ∀ w w' flags, List.Forall₂ Record.SaysSame (run w flags acts) (run w' flags acts')) ∧
    ∀ W, sink.AnswersAlike W → ∀ now now' report request c c', Context.SaysSame c c' →
      ∀ s, ((log.handle now ⟨report, request, c⟩).run s).2.counters =
        ((log.handle now' ⟨report, request, c'⟩).run s).2.counters := by
  intro log run
  refine ⟨fun w flags acts r hr => ?_, fun acts acts' ha s => proceed_of_restates log ha s,
    fun acts acts' ha w w' flags => ?_, fun W hw now now' report request c c' hc s => ?_⟩
  · obtain ⟨m, hm, hr⟩ := mem_records_of_mem_handed hs hr
    exact ⟨m, hm, hr, m.showsHeaders_of_mem_records hr⟩
  · exact forall₂_handed hs (likewise_of_restates ha) w w'
  · exact counters_handle hs hw now now' hc report request s

/-- With one worker: a header that forges the user changes nothing, and is not shown. -/
theorem handed_of_internal_headers_forged_user :
    let sink : Sink Unit := { name := "test", store := fun _ _ => pure .stored }
    let setup : Setup (Unit × List Record) :=
      { config := { threadpoolSize := 1, sink := .empty }
        registry := {}
        sink := some (liftSink sink.journaled) }
    let context (headers : List (String × String)) : Context :=
      { origin := some .rest, user := some "mallory", remoteAddress := some "203.0.113.9"
        headers := .ofList headers }
    let report : Report := .missingPrivileges "indices:data/read/search"
    let request : Request := .transport "indices:data/read/search" (.search {})
    let honest := context [("X-Opaque-Id", "7")]
    let forged := context [("X-Opaque-Id", "7"), ("_vigil_user", "admin")]
    let acts (c : Context) : List Act :=
      [.step (.call ⟨0, 0⟩ ⟨report, request, c⟩), .work ⟨1, 0⟩ 1]
    let log := build setup
    let run c := handed (log.proceed (acts c) (log.start ((), [])))
    honest.SaysSame forged ∧ setup.chosenSink = some (liftSink sink.journaled) ∧
      (run forged).length = 1 ∧ run forged = run honest ∧
      (∀ r ∈ run forged, ∃ m ∈ calls .allOn (acts forged), r ∈ m.records setup.recorder ∧
        r.ShowsHeaders m.call.context.headers) ∧
      ((log.handle ⟨0, 0⟩ ⟨report, request, honest⟩).run (log.start ((), []))).2.counters =
        ((log.handle ⟨5, 0⟩ ⟨report, request, forged⟩).run (log.start ((), []))).2.counters := by
  intro sink setup context report request honest forged acts log run
  have hs : setup.chosenSink = some (liftSink sink.journaled) :=
    chosenSink_of_stated (by decide +kernel) rfl
  have hc : honest.SaysSame forged := by
    refine ⟨rfl, rfl, rfl, rfl, fun name hn => ?_, by decide +kernel, rfl, rfl, rfl⟩
    have hne : "_vigil_user" ≠ name := by
      rintro rfl
      exact hn (by decide +kernel)
    have hf : forged.headers = honest.headers.insert "_vigil_user" "admin" := rfl
    rw [hf, Table.find?_insert, if_neg hne]
  have hw : sink.AnswersAlike fun _ _ => True :=
    { store := fun _ _ _ _ _ _ _ _ => trivial
      close := fun _ _ _ => trivial
      refl := fun _ => trivial
      answer := fun _ _ _ _ _ _ _ _ => rfl }
  obtain ⟨hh, hr, -, hn⟩ := handed_of_internal_headers hs
  refine ⟨hc, hs, by decide +kernel, ?_, hh () .allOn (acts forged), ?_⟩
  · have ha : List.Forall₂ (Act.Restates Eq) (acts honest) (acts forged) :=
      .cons (.context rfl hc report request) (.cons (.work rfl 1) .nil)
    exact congrArg handed (hr _ _ ha (log.start ((), [])))
  · exact hn _ hw ⟨0, 0⟩ ⟨5, 0⟩ report request honest forged hc _

end Log

end AuditTrail
