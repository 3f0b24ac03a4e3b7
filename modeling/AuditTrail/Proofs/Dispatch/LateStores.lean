import AuditTrail.Proofs.Dispatch.Lifecycle

/-! # Stores after the sink is closed

A shutdown without workers waits for nobody. A call that has found the dispatcher active may come to
the sink when it is closed already, and only such a call may.
-/

namespace AuditTrail.Dispatch.Direct

open Threads (Ticket)

variable {es before after : List Threads.Event} {s : (machine true).State} {k : Ticket}

/-- No call to the store of the sink begins once the sink is closed. -/
def NoLateStore (es : List Threads.Event) : Prop :=
  es.Pairwise fun a b => a = .closeSink → b.beginsStore? = none

/-- A caller is between counting its record and calling the sink while another thread shuts the
dispatcher down from the first step to the last. -/
def overtaken (k : Ticket) : List Threads.Event :=
  [.call k, .enter k, .countCall k, .shutdown, .win] ++
    .closeSink :: [.setClosed, .beginStore k, .endStore k .stored, .countRecord k]

theorem overtaken_run (r : Record) :
    (machine true).Run (machine true).start (overtaken ⟨0, r⟩)
      { phase := .closed
        counters := { submitted := 1, stored := 1 }
        callers := [.returned ⟨0, r⟩]
        closers := [.returned] } := by
  have h₁ := (((Machine.Run.nil (M := machine true) (s := {})).snoc (Step.call r rfl)).snoc
    (Step.enter rfl (.here _))).snoc (Step.countTaken (.here _))
  have h₂ := (((h₁.snoc Step.shutdown).snoc (Step.win rfl rfl (.here _))).snoc
    (Step.closeSink (.here _))).snoc (Step.setClosed (.here _))
  have h₃ := ((h₂.snoc (Step.beginStore (.here _))).snoc
    (Step.endStore (d := .stored) nofun (.here _))).snoc (Step.countDelivery (.here _))
  exact h₃

/-- The sink is called after it was closed. -/
theorem late_store_of_overtaken :
    let k : Ticket := ⟨0, { category := .authenticated, created := ⟨0, 0⟩ }⟩
    (∃ s, (machine true).Run (machine true).start (overtaken k) s) ∧ ¬NoLateStore (overtaken k) :=
  ⟨⟨_, overtaken_run _⟩, by simp [NoLateStore, overtaken]⟩

/-! ## The calls that come late -/

theorem steps_of_store {t : (machine true).State}
    (h : (machine true).Run (machine true).start es s)
    (hs : (machine true).Step s (.beginStore k) t) :
    stepsOf k.number es = [.call k, .enter k, .countCall k] := by
  have hs : Step true s (.beginStore k) t := hs
  cases hs with
  | beginStore mv =>
    obtain ⟨i, hi⟩ := List.mem_iff_getElem?.mp mv.mem
    obtain ⟨rfl, hd⟩ := (courses_run h).course i _ hi
    change Caller.Did _ (stepsOf k.number es) at hd
    generalize stepsOf k.number es = d at hd ⊢
    cases hd
    rfl

theorem caller_of_entered (h : Courses Caller.ticket Caller.Did s.callers es)
    (hk : .enter k ∈ es) (rest : List Threads.Event)
    (hd : stepsOf k.number es ++ rest = [.call k, .enter k, .countCall k]) :
    .admitted k ∈ s.callers ∨ .ready k ∈ s.callers := by
  obtain ⟨c, hc, -, hs, hm⟩ := h.exists_of_mem (t := k) rfl hk
  generalize stepsOf k.number es = d at hs hm hd
  cases hs with
  | admitted =>
    obtain rfl : k = _ := by simpa using hm
    exact Or.inl (List.mem_of_getElem? hc)
  | ready =>
    obtain rfl : k = _ := by simpa using hm
    exact Or.inr (List.mem_of_getElem? hc)
  | entering | refused | passed | turnedAway => simp at hm
  | storing | counting | crashed | done => simp at hd

theorem win_of_closeSink (h : (machine true).Run (machine true).start (es ++ [.closeSink]) s) :
    .win ∈ es := by
  have hw := (orderly_run (m := .direct) h).win_mem (e := .closeSink) rfl (by simp)
  simpa using hw

/-- Only calls that had found the dispatcher active before it was shut down, and had yet to call
the sink when it was closed, call it afterwards. -/
theorem caller_of_late_store
    (h : (machine true).Run (machine true).start (before ++ .closeSink :: after) s) :
    ∃ u, (machine true).Run (machine true).start before u ∧
      (machine true).Run u (.closeSink :: after) s ∧
      ∀ k, .beginStore k ∈ after →
        (.admitted k ∈ u.callers ∨ .ready k ∈ u.callers) ∧
          ∃ a b, before = a ++ .win :: b ∧ .enter k ∈ a := by
  obtain ⟨u, hu, hus⟩ := h.exists_of_append
  refine ⟨u, hu, hus, fun k hk => ?_⟩
  obtain ⟨p, q, rfl⟩ := List.append_of_mem hk
  have hl : before ++ .closeSink :: (p ++ .beginStore k :: q) =
      (before ++ .closeSink :: p ++ [.beginStore k]) ++ q := by
    simp
  obtain ⟨w, hw, -⟩ := (hl ▸ h).exists_of_append
  obtain ⟨v, hv, hs⟩ := hw.exists_of_snoc
  have hd := steps_of_store hv hs
  have hm : .enter k ∈ before ++ .closeSink :: p := by
    have he : .enter k ∈ stepsOf k.number (before ++ .closeSink :: p) := by simp [hd]
    exact ((mem_stepsOf (t := k) rfl).mp he).1
  -- The shutdown began before the sink was closed, and nobody enters once it has begun.
  have hl : before ++ .closeSink :: p = (before ++ [.closeSink]) ++ p := by
    simp
  obtain ⟨x, hx, -⟩ := (hl ▸ hv).exists_of_append
  obtain ⟨a, b, rfl⟩ := List.append_of_mem (win_of_closeSink hx)
  have he := enter_before_win (m := .direct) hv
  rw [List.append_assoc, List.cons_append] at he hm
  have hn := (List.pairwise_cons.mp (List.pairwise_append.mp he).2.1).1
  have ha : .enter k ∈ a := by
    rcases List.mem_append.mp hm with ha | hb
    · exact ha
    · rcases List.mem_cons.mp hb with hb | hb
      · cases hb
      · exact absurd rfl (hn _ hb rfl k)
  refine ⟨?_, a, b, rfl, ha⟩
  refine caller_of_entered (courses_run hu) (List.mem_append_left _ ha) (stepsOf k.number p) ?_
  rw [← hd]
  simp [stepsOf, Threads.Event.isAbout]

theorem caller_of_late_store_of_overtaken :
    let k : Ticket := ⟨0, { category := .authenticated, created := ⟨0, 0⟩ }⟩
    ∃ u, (machine true).Run (machine true).start
        [.call k, .enter k, .countCall k, .shutdown, .win] u ∧
      (∃ s, (machine true).Run u
        [.closeSink, .setClosed, .beginStore k, .endStore k .stored, .countRecord k] s) ∧
      (.admitted k ∈ u.callers ∨ .ready k ∈ u.callers) := by
  intro k
  obtain ⟨u, hu, hus, hc⟩ := caller_of_late_store (overtaken_run k.record)
  exact ⟨u, hu, ⟨_, hus⟩, (hc k (by simp [k])).1⟩

end AuditTrail.Dispatch.Direct
