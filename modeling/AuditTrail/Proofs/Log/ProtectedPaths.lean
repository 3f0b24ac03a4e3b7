import AuditTrail.Proofs.Log.Handed
import AuditTrail.Proofs.Pattern.Glob
import AuditTrail.Proofs.Resolver.Batches
import AuditTrail.Proofs.Text.Split

/-! # Paths of the protected index

A request over HTTP whose path names the protected index is recorded without its body, and what is
handed over does not depend on the body. Names that start with an underscore are passed over in a
path, so an index of such a name is not protected, nor is one whose name is a glob that the engine
refuses.
-/

namespace AuditTrail

/-! ## Paths that name an index -/

/-- Whether a path names an index. -/
def PathNames (index path : String) : Prop :=
  ∃ segment ∈ Text.split '/' path, index ∈ Text.split ',' segment

theorem isPrefixOf_underscore_iff (s : String) :
    "_".isPrefixOf s = true ↔ s.toList.head? = some '_' := by
  rw [String.isPrefixOf, String.startsWith_string_iff]
  cases hs : s.toList <;> simp [List.cons_prefix_iff]

/-- A name that is found in every path that names it. -/
structure Findable (e : Pattern.Engine) (index : String) : Prop where
  ne_empty : index ≠ ""
  head : index.toList.head? ≠ some '_'
  accepts : Pattern.isGlob index.toList = true → (Pattern.ofText e index).accepts index = true

theorem Findable.pathConcernsIndex {e : Pattern.Engine} {index path : String}
    (hf : Findable e index) (h : PathNames index path) : pathConcernsIndex e index path = true := by
  obtain ⟨segment, hs, hi⟩ := h
  have hslash : index.toList.head? ≠ some '/' := fun hh =>
    (Text.of_mem_split hs).2 ((Text.of_mem_split hi).1 (List.mem_of_mem_head? hh))
  have ha : (Pattern.ofText e index).accepts index = true := by
    cases hg : Pattern.isGlob index.toList with
    | true => exact hf.accepts hg
    | false => exact Pattern.accepts_ofText_self hslash hg
  refine List.any_eq_true.mpr ⟨index, ?_, ?_⟩
  · rw [namesInPath, List.mem_filter, List.mem_flatMap]
    refine ⟨⟨segment, hs, hi⟩, ?_⟩
    have hu := hf.head
    rw [ne_eq, ← isPrefixOf_underscore_iff] at hu
    simp [hf.ne_empty, hu]
  · rw [concernsIndex, ha, Bool.true_or]

theorem Config.configIndex_ne_empty {c : Config} (h : c.isValid = true) : c.configIndex ≠ "" := by
  intro he
  have hb : Text.isAllBlank "" = true := by decide +kernel
  simp only [isValid, check, he, hb, if_true] at h
  split at h
  · next hc => split_ifs at hc
  · cases h

/-! ## Records -/

/-- Two records say the same, their times apart. -/
structure Record.SaysSame (r r' : Record) : Prop where
  category : r.category = r'.category
  value? : r.value? = r'.value?

theorem Record.saysSame_stamped (r : Record) (now : Instant) : r.SaysSame (r.stamped now) :=
  ⟨rfl, rfl⟩

namespace Recorder

variable {f : Filter} {now now' : Instant} {event : Event} {q : RestRequest} {ctx : Context}

theorem shownBody_of_pathConcernsIndex
    (h : pathConcernsIndex f.engine f.configIndex q.path = true) : shownBody f q = none := by
  simp [shownBody, h]

theorem restRecord_stamped (f : Filter) (now now' : Instant) (event : Event) (q : RestRequest)
    (ctx : Context) :
    restRecord f now' event q ctx = (restRecord f now event q ctx).stamped now' := by
  have hc : ({ category := event.category, created := now' } : Record) =
      ({ category := event.category, created := now } : Record).stamped now' := rfl
  simp only [restRecord, hc, Record.origin_stamped, Record.text_stamped, Record.flag_stamped,
    Record.table_stamped]

theorem restRecord_withBody (h : pathConcernsIndex f.engine f.configIndex q.path = true)
    (body : Payload) :
    restRecord f now event { q with body } ctx = restRecord f now event q ctx := by
  simp only [restRecord, shownBody_of_pathConcernsIndex h,
    shownBody_of_pathConcernsIndex (q := { q with body }) h]

theorem value?_requestBody_restRecord (h : pathConcernsIndex f.engine f.configIndex q.path = true) :
    (restRecord f now event q ctx).value? .requestBody = none := by
  simp [restRecord, shownBody_of_pathConcernsIndex h]

end Recorder

theorem Resolver.resolve_stamped (r : Resolver) (now now' : Instant) (scope : Scope)
    (event : Event) (a : Operation) :
    r.resolve now' scope event a = (r.resolve now scope event a).map (·.stamped now') := by
  rw [resolve_eq_map, resolve_eq_map, List.map_map]
  refine List.map_congr_left fun b _ => ?_
  rw [record_stamped r now]
  rfl

/-! ## Calls -/

namespace Call

/-- Whether a call is about a request over HTTP whose path names an index. -/
def Names (index : String) (c : Call) : Prop :=
  ∃ q, c.request = .rest q ∧ PathNames index q.path

/-- The call with another body of its request over HTTP. -/
def withBody (c : Call) (body : Payload) : Call :=
  match c.request with
  | .rest q => { c with request := .rest { q with body } }
  | .transport .. => c

end Call

namespace Log

open Dispatch (Grace liftSink)

/-- Two acts differ in times and in the bodies of requests whose paths name an index at most. -/
inductive Act.Resembles (index : String) : Act → Act → Prop
  | call (now now' : Instant) (c : Call) :
    Resembles index (.step (.call now c)) (.step (.call now' c))
  | body (now now' : Instant) {c : Call} (h : c.Names index) (body : Payload) :
    Resembles index (.step (.call now c)) (.step (.call now' (c.withBody body)))
  | change (c : CategoryFlags.Change) : Resembles index (.step (.change c)) (.step (.change c))
  | close (now now' : Instant) (grace : Grace) :
    Resembles index (.step (.close now grace)) (.step (.close now' grace))
  | work (now now' : Instant) (deliveries : Nat) :
    Resembles index (.work now deliveries) (.work now' deliveries)

variable {p : Recorder} {flags : CategoryFlags} {now now' : Instant} {c : Call}

theorem records_stamped (p : Recorder) (flags : CategoryFlags) (now now' : Instant) (c : Call) :
    p.records flags now' c = (p.records flags now c).map (·.stamped now') := by
  change Made.records p ⟨flags, now', c⟩ = (Made.records p ⟨flags, now, c⟩).map _
  cases hq : c.request with
  | rest q =>
    rw [Made.records_of_rest hq, Made.records_of_rest hq, apply_ite (List.map _),
      Recorder.restRecord_stamped p.filter now]
    rfl
  | transport action a =>
    rw [Made.records_of_transport hq, Made.records_of_transport hq, apply_ite (List.map _),
      Resolver.resolve_stamped p.resolver now]
    rfl

theorem records_withBody (hf : Findable p.filter.engine p.filter.configIndex)
    (hc : c.Names p.filter.configIndex) (body : Payload) :
    p.records flags now (c.withBody body) = p.records flags now c := by
  obtain ⟨report, _, context⟩ := c
  obtain ⟨q, rfl, hn⟩ := hc
  change Made.records p ⟨flags, now, report, .rest { q with body }, context⟩ =
    Made.records p ⟨flags, now, report, .rest q, context⟩
  rw [Made.records_of_rest rfl, Made.records_of_rest rfl,
    Recorder.restRecord_withBody (hf.pathConcernsIndex hn)]
  rfl

theorem saysSame_records (p : Recorder) (flags : CategoryFlags) (now now' : Instant) (c : Call) :
    List.Forall₂ Record.SaysSame (p.records flags now c) (p.records flags now' c) := by
  rw [records_stamped p flags now now', List.forall₂_map_right_iff, List.forall₂_same]
  exact fun r _ => r.saysSame_stamped now'

theorem likewise_of_resembles (hf : Findable p.filter.engine p.filter.configIndex)
    {acts acts' : List Act}
    (h : List.Forall₂ (Act.Resembles p.filter.configIndex) acts acts') :
    Likewise Record.SaysSame p p flags acts acts' := by
  induction h generalizing flags with
  | nil => exact .nil
  | cons ha _ ih =>
    cases ha with
    | call now now' c => exact .call (saysSame_records p flags now now' c) ih
    | body now now' hc body =>
      refine .call ?_ ih
      rw [records_withBody hf hc]
      exact saysSame_records p flags now now' _
    | change c => exact .change ih
    | close now now' grace => exact .close ih
    | work now now' n => exact .work ih

theorem value?_requestBody_of_names (hf : Findable p.filter.engine p.filter.configIndex)
    {m : Made} (hm : m.call.Names p.filter.configIndex) {r : Record} (hr : r ∈ m.records p) :
    r.value? .requestBody = none := by
  obtain ⟨q, hq, hn⟩ := hm
  rw [Made.records_of_rest hq, List.mem_ite_nil_right, List.mem_singleton] at hr
  rw [hr.2]
  exact Recorder.value?_requestBody_restRecord (hf.pathConcernsIndex hn)

variable {ω : Type}

theorem isValid_of_chosenSink {setup : Setup ω} {sink : Sink (State ω)}
    (hs : setup.chosenSink = some sink) : setup.config.isValid = true := by
  by_contra hv
  rw [Setup.chosenSink, if_neg hv] at hs
  cases hs

/-- Where the name of the protected index starts with no underscore, and accepts itself if it is a
glob, the bodies of requests over HTTP whose paths name the index make no difference to what is
handed over, and none of their records shows one. -/
theorem handed_of_protected_bodies {setup : Setup (ω × List Record)} {sink : Sink ω}
    (hs : setup.chosenSink = some (liftSink sink.journaled))
    (hu : setup.config.configIndex.toList.head? ≠ some '_')
    (hg : Pattern.isGlob setup.config.configIndex.toList = true →
      (Pattern.ofText setup.engine setup.config.configIndex).accepts setup.config.configIndex =
        true) :
    let index := setup.config.configIndex
    let run w flags acts := handed ((build setup).proceed acts ((build setup).start (w, []) flags))
    (∀ w w' flags acts acts', List.Forall₂ (Act.Resembles index) acts acts' →
      List.Forall₂ Record.SaysSame (run w flags acts) (run w' flags acts')) ∧
    (∀ w flags acts, ∀ r ∈ run w flags acts,
      ∃ m ∈ calls flags acts, r ∈ m.records setup.recorder) ∧
    ∀ m : Made, m.call.Names index →
      ∀ r ∈ m.records setup.recorder, r.value? .requestBody = none := by
  intro index run
  have hf : Findable setup.engine index :=
    ⟨Config.configIndex_ne_empty (isValid_of_chosenSink hs), hu, hg⟩
  refine ⟨fun w w' flags acts acts' ha => ?_, fun w flags acts r hr => ?_, fun m hm r hr => ?_⟩
  · exact forall₂_handed hs (likewise_of_resembles (p := setup.recorder) hf ha) w w'
  · exact mem_records_of_mem_handed hs hr
  · exact value?_requestBody_of_names (p := setup.recorder) hf hm hr

/-- With one worker and a glob for the protected index: a write to a name that is spelled as the
glob is, and a second later the same without a body. -/
theorem handed_of_protected_bodies_two_runs :
    let sink : Sink Unit := { name := "test", store := fun _ _ => pure .stored }
    let setup : Setup (Unit × List Record) :=
      { config := { threadpoolSize := 1, configIndex := "search*", sink := .empty }
        registry := {}
        sink := some (liftSink sink.journaled) }
    let call : Call :=
      { report := .missingPrivileges "indices:data/write/index"
        request := .rest { path := "/movies,search*/_doc/1", body := some [112, 119] }
        context := {} }
    let run acts := handed ((build setup).proceed acts ((build setup).start ((), [])))
    let shown : List Act := [.step (.call ⟨0, 0⟩ call), .work ⟨0, 0⟩ 1]
    let hidden : List Act := [.step (.call ⟨1, 0⟩ (call.withBody none)), .work ⟨1, 0⟩ 1]
    setup.chosenSink = some (liftSink sink.journaled) ∧
      setup.config.configIndex.toList.head? ≠ some '_' ∧
      Pattern.isGlob setup.config.configIndex.toList = true ∧
      (run shown).length = 1 ∧ List.Forall₂ Record.SaysSame (run shown) (run hidden) ∧
      ∀ r ∈ setup.recorder.records .allOn ⟨0, 0⟩ call, r.value? .requestBody = none := by
  intro sink setup call run shown hidden
  have hs : setup.chosenSink = some (liftSink sink.journaled) :=
    chosenSink_of_stated (by decide +kernel) rfl
  have hu : setup.config.configIndex.toList.head? ≠ some '_' := by decide +kernel
  have hn : call.Names setup.config.configIndex :=
    ⟨_, rfl, "movies,search*", by decide +kernel, by decide +kernel⟩
  have hg : Pattern.isGlob setup.config.configIndex.toList = true := by decide +kernel
  have ha : (Pattern.ofText setup.engine setup.config.configIndex).accepts
      setup.config.configIndex = true := Pattern.accepts_glob_self (by decide +kernel) hg
  obtain ⟨hr, -, hb⟩ := handed_of_protected_bodies hs hu fun _ => ha
  refine ⟨hs, hu, hg, by decide +kernel, ?_, hb ⟨.allOn, ⟨0, 0⟩, call⟩ hn⟩
  exact hr () () .allOn shown hidden (.cons (.body _ _ hn none) (.cons (.work _ _ 1) .nil))

/-- The body of a write to an index whose name starts with an underscore is shown, although the
index is the protected one. -/
theorem underscored_body_handed :
    let sink : Sink Unit := { name := "test", store := fun _ _ => pure .stored }
    let config : Config := { threadpoolSize := 0, configIndex := "_secret", sink := .empty }
    let setup : Setup (Unit × List Record) :=
      { config, registry := {}, sink := some (liftSink sink.journaled) }
    let call : Call :=
      { report := .missingPrivileges "indices:data/write/index"
        request := .rest { path := "/_secret/_doc/1", body := some [112, 119] }
        context := {} }
    let run acts := handed ((build setup).proceed acts ((build setup).start ((), [])))
    config.isValid = true ∧ '/' ∉ config.configIndex.toList ∧ ',' ∉ config.configIndex.toList ∧
      call.Names config.configIndex ∧
      (run [.step (.call ⟨0, 0⟩ call)]).map (·.string? .requestBody) = [some "pw"] ∧
      (run [.step (.call ⟨0, 0⟩ (call.withBody none))]).map (·.string? .requestBody) = [none] := by
  refine ⟨by decide +kernel, by decide +kernel, by decide +kernel, ?_, ?_, ?_⟩
  · exact ⟨_, rfl, "_secret", by decide +kernel, by decide +kernel⟩
  · decide +kernel
  · decide +kernel

end Log

end AuditTrail
