import AuditTrail.Dispatch.Machine

/-! # Shutdowns

Of all calls that shut a dispatcher down, one at most goes ahead. It makes the steps of one script
from the first to the last, and the phase says how far it has come.
-/

namespace AuditTrail.Dispatch

open Threads (Closer Moves)

variable {m : Mode} {es : List Threads.Event} {e : Threads.Event}
variable {p p' : Phase} {l l' : List Closer}

/-- Whether a step belongs to the shutdown that goes ahead. -/
@[simp] def Threads.Event.shutsDown : Threads.Event → Bool
  | .win | .closeQueue | .timeOut | .setCancelled | .drained _ | .closeSink | .setClosed => true
  | _ => false

theorem filter_concat_of_true {α : Type} {q : α → Bool} {a : α} (h : q a = true) (l : List α) :
    (l ++ [a]).filter q = l.filter q ++ [a] := by
  simp [h]

theorem filter_concat_of_false {α : Type} {q : α → Bool} {a : α} (h : q a = false)
    (l : List α) : (l ++ [a]).filter q = l.filter q := by
  simp [h]

/-- The steps of the shutdown that goes ahead, in their order. -/
def shutdownSteps (es : List Threads.Event) : List Threads.Event :=
  es.filter Threads.Event.shutsDown

theorem shutdownSteps_snoc (es : List Threads.Event) (he : e.shutsDown = true) :
    shutdownSteps (es ++ [e]) = shutdownSteps es ++ [e] :=
  filter_concat_of_true he es

theorem shutdownSteps_snoc_of_false (es : List Threads.Event) (he : e.shutsDown = false) :
    shutdownSteps (es ++ [e]) = shutdownSteps es :=
  filter_concat_of_false he es

theorem mem_shutdownSteps : e ∈ shutdownSteps es ↔ e ∈ es ∧ e.shutsDown = true :=
  List.mem_filter

/-- Whether a shutdown has gone ahead and has yet to return. -/
@[simp] def Threads.Closer.isAhead : Closer → Bool
  | .entering | .returned => false
  | _ => true

/-- All ways to shut a dispatcher down. -/
def Mode.scripts : Mode → List (List Threads.Event)
  | pooled _ _ =>
    [[.win, .closeQueue, .drained true, .closeSink, .setClosed],
      [.win, .closeQueue, .timeOut, .setCancelled, .drained true, .closeSink, .setClosed],
      [.win, .closeQueue, .timeOut, .setCancelled, .drained false, .closeSink, .setClosed]]
  | direct => [[.win, .closeSink, .setClosed]]
  | disabled => [[.win, .setClosed]]

/-- The steps of a shutdown that has come to a stage. -/
inductive Threads.Closer.Did : Mode → Closer → List Threads.Event → Prop
  | closing {w n} : Did (.pooled w n) .closing [.win]
  | waiting {w n} : Did (.pooled w n) .waiting [.win, .closeQueue]
  | cancelling {w n} : Did (.pooled w n) .cancelling [.win, .closeQueue, .timeOut]
  | waitingAgain {w n} :
    Did (.pooled w n) .waitingAgain [.win, .closeQueue, .timeOut, .setCancelled]
  | joined {w n} : Did (.pooled w n) (.drained true) [.win, .closeQueue, .drained true]
  | reported {w n} (all : Bool) : Did (.pooled w n) (.drained all)
    [.win, .closeQueue, .timeOut, .setCancelled, .drained all]
  | direct : Did .direct (.drained true) [.win]
  | disabled : Did .disabled .leaving [.win]
  | leaving {m all d} : Did m (.drained all) d → Did m .leaving (d ++ [.closeSink])
  | returned {m d} : Did m .leaving d → Did m .returned (d ++ [.setClosed])

namespace Threads.Closer.Did

variable {c : Closer} {d : List Event}

theorem script_of_drained {all : Bool} (h : Did m (.drained all) d) :
    d ++ [.closeSink, .setClosed] ∈ m.scripts := by
  cases h with
  | reported all => cases all <;> simp [Mode.scripts]
  | _ => simp [Mode.scripts]

theorem script_of_leaving (h : Did m .leaving d) : d ++ [.setClosed] ∈ m.scripts := by
  cases h with
  | disabled => simp [Mode.scripts]
  | leaving h => simpa using script_of_drained h

theorem mem_scripts (h : Did m .returned d) : d ∈ m.scripts := by
  cases h with
  | returned h => exact script_of_leaving h

theorem exists_script (h : Did m c d) : ∃ script ∈ m.scripts, d <+: script := by
  cases h with
  | closing | waiting | cancelling | waitingAgain => simp [Mode.scripts]
  | joined => exact ⟨_, script_of_drained .joined, List.prefix_append ..⟩
  | reported all => exact ⟨_, script_of_drained (.reported all), List.prefix_append ..⟩
  | direct => exact ⟨_, script_of_drained .direct, List.prefix_append ..⟩
  | disabled => exact ⟨_, script_of_leaving .disabled, List.prefix_append ..⟩
  | leaving h => exact ⟨_, script_of_leaving (.leaving h), List.prefix_append ..⟩
  | returned h => exact ⟨_, script_of_leaving h, List.prefix_rfl⟩

theorem win_mem (h : Did m c d) : .win ∈ d := by
  induction h with
  | leaving _ ih | returned _ ih => exact List.mem_append_left _ ih
  | _ => exact List.mem_cons_self

theorem setClosed_not_mem (h : Did m c d) (hc : c.isAhead = true) : .setClosed ∉ d := by
  induction h with
  | leaving _ ih => simpa using ih rfl
  | returned => cases hc
  | _ => simp

end Threads.Closer.Did

theorem Mode.setClosed_mem_of_script {d : List Threads.Event} (h : d ∈ m.scripts) :
    .setClosed ∈ d := by
  cases m <;> simp [Mode.scripts] at h <;> rcases h with rfl | rfl | rfl <;> simp

/-! ## Steps -/

/-- What a step is to the shutdowns. -/
inductive Passes (m : Mode) (p : Phase) (l : List Closer) :
    Threads.Event → Phase → List Closer → Prop
  /-- A step of another thread. -/
  | aside {e : Threads.Event} : e.shutsDown = false → Passes m p l e p l
  | call : Passes m p l .shutdown p (l ++ [.entering])
  | lose {l' : List Closer} : p ≠ .active → Moves .entering .returned l l' → Passes m p l .lose p l'
  | win {c : Closer} {l' : List Closer} : p = .active → c.isAhead = true → c.Did m [.win] →
    Moves .entering c l l' → Passes m p l .win .draining l'
  | goOn {e : Threads.Event} {c c' : Closer} {l' : List Closer} : e.shutsDown = true →
    c.isAhead = true → c'.isAhead = true → (∀ d, c.Did m d → c'.Did m (d ++ [e])) →
    Moves c c' l l' → Passes m p l e p l'
  | setClosed {l' : List Closer} : Moves .leaving .returned l l' →
    Passes m p l .setClosed .closed l'

theorem Threads.passes {s t : Threads.State} {w n : Nat} (h : Threads.Step s e t) :
    Passes (.pooled w n) s.phase s.closers e t.phase t.closers := by
  cases h with
  | shutdown => exact .call
  | win ha m => exact .win ha rfl .closing m
  | lose ha m => exact .lose ha m
  | closeQueue m => exact .goOn rfl rfl rfl (fun _ h => by cases h; exact .waiting) m
  | join _ m => exact .goOn rfl rfl rfl (fun _ h => by cases h; exact .joined) m
  | timeOut m => exact .goOn rfl rfl rfl (fun _ h => by cases h; exact .cancelling) m
  | setCancelled m => exact .goOn rfl rfl rfl (fun _ h => by cases h; exact .waitingAgain) m
  | joinAgain _ m => exact .goOn rfl rfl rfl (fun _ h => by cases h; exact .reported true) m
  | giveUp m => exact .goOn rfl rfl rfl (fun _ h => by cases h; exact .reported false) m
  | closeSink m => exact .goOn rfl rfl rfl (fun _ h => .leaving h) m
  | setClosed m => exact .setClosed m
  | _ => exact .aside rfl

theorem Direct.passes {s t : Direct.State} {sink : Bool} (h : Direct.Step sink s e t) :
    Passes (if sink then .direct else .disabled) s.phase s.closers e t.phase t.closers := by
  cases h with
  | shutdown => exact .call
  | win hs ha m =>
    subst hs
    exact .win ha rfl .direct m
  | winAlone hs ha m =>
    subst hs
    exact .win ha rfl .disabled m
  | lose ha m => exact .lose ha m
  | closeSink m => exact .goOn rfl rfl rfl (fun _ h => .leaving h) m
  | setClosed m => exact .setClosed m
  | _ => exact .aside rfl

theorem Mode.passes {s t : m.machine.State} (h : m.machine.Step s e t) :
    Passes m (m.machine.phase s) (m.machine.closers s) e (m.machine.phase t)
      (m.machine.closers t) := by
  cases m with
  | pooled => exact Threads.passes h
  | direct | disabled => exact Direct.passes h

/-! ## Whole runs -/

/-- The shutdowns of a run, by phase. -/
inductive Orderly (m : Mode) (es : List Threads.Event) (p : Phase) (l : List Closer) : Prop
  | active : p = .active → l.countP Closer.isAhead = 0 → shutdownSteps es = [] →
    Orderly m es p l
  | draining {c} : p = .draining → c ∈ l → c.isAhead = true → l.countP Closer.isAhead = 1 →
    c.Did m (shutdownSteps es) → Orderly m es p l
  | closed : p = .closed → l.countP Closer.isAhead = 0 →
    Closer.returned.Did m (shutdownSteps es) → Orderly m es p l

theorem eq_of_countP_eq_one {α : Type} {q : α → Bool} {l : List α} (h : l.countP q = 1) {a b : α}
    (ha : a ∈ l) (hb : b ∈ l) (hqa : q a = true) (hqb : q b = true) : a = b := by
  rw [List.countP_eq_length_filter] at h
  obtain ⟨c, hc⟩ := List.length_eq_one_iff.mp h
  have ha' := List.mem_filter.mpr ⟨ha, hqa⟩
  have hb' := List.mem_filter.mpr ⟨hb, hqb⟩
  rw [hc, List.mem_singleton] at ha' hb'
  rw [ha', hb']

theorem not_mem_of_countP_eq_zero {α : Type} {q : α → Bool} {l : List α} (h : l.countP q = 0)
    {a : α} (ha : q a = true) : a ∉ l :=
  fun hm => List.countP_eq_zero.mp h a hm ha

theorem Threads.Moves.mem_of_ne {α : Type} {a b c : α} {l l' : List α} (h : Moves a b l l')
    (hc : c ∈ l) (hne : c ≠ a) : c ∈ l' := by
  induction h with
  | here => exact List.mem_cons_of_mem _ ((List.mem_cons.mp hc).resolve_left hne)
  | there d _ ih =>
    rcases List.mem_cons.mp hc with rfl | hc
    · exact List.mem_cons_self
    · exact List.mem_cons_of_mem d (ih hc)

theorem Threads.Moves.mem_after {α : Type} {a b : α} {l l' : List α} (h : Moves a b l l') :
    b ∈ l' := by
  induction h with
  | here => exact List.mem_cons_self
  | there c _ ih => exact List.mem_cons_of_mem c ih

theorem Orderly.aside (h : Orderly m es p l) (he : e.shutsDown = false)
    (hl : l'.countP Closer.isAhead = l.countP Closer.isAhead)
    (hm : ∀ c ∈ l, c.isAhead = true → c ∈ l') : Orderly m (es ++ [e]) p l' := by
  have hf := shutdownSteps_snoc_of_false es he
  cases h with
  | active hp hc hd => exact .active hp (hl.trans hc) (hf.trans hd)
  | draining hp hc ha hn hd => exact .draining hp (hm _ hc ha) ha (hl.trans hn) (hf ▸ hd)
  | closed hp hc hd => exact .closed hp (hl.trans hc) (hf ▸ hd)

theorem orderly_step (h : Orderly m es p l) (hs : Passes m p l e p' l') :
    Orderly m (es ++ [e]) p' l' := by
  cases hs with
  | aside he => exact h.aside he rfl fun _ hc _ => hc
  | call => exact h.aside rfl (by simp) fun _ hc _ => List.mem_append_left _ hc
  | lose _ mv =>
    refine h.aside rfl (by simpa using mv.countP Closer.isAhead) fun c hc ha => ?_
    exact mv.mem_of_ne hc (by rintro rfl; cases ha)
  | @win c l' hp ha hd mv =>
    have hn := mv.countP Closer.isAhead
    cases h with
    | active _ hc hf =>
      refine .draining rfl mv.mem_after ha ?_ ?_
      · rwa [hc, ha] at hn
      · rwa [shutdownSteps_snoc es rfl, hf]
    | draining hp' | closed hp' =>
      rw [hp] at hp'
      cases hp'
  | @goOn e c c' l' he hc hc' hd mv =>
    have hn := mv.countP Closer.isAhead
    simp only [hc, hc'] at hn
    cases h with
    | active _ hz | closed _ hz => exact absurd mv.mem (not_mem_of_countP_eq_zero hz hc)
    | draining hp hm ha ho hf =>
      obtain rfl := eq_of_countP_eq_one ho mv.mem hm hc ha
      refine .draining hp mv.mem_after hc' (by omega) ?_
      rw [shutdownSteps_snoc es he]
      exact hd _ hf
  | setClosed mv =>
    have hn := mv.countP Closer.isAhead
    cases h with
    | active _ hz | closed _ hz => exact absurd mv.mem (not_mem_of_countP_eq_zero hz rfl)
    | draining hp hm ha ho hf =>
      obtain rfl := eq_of_countP_eq_one ho mv.mem hm rfl ha
      refine .closed rfl (by simpa [ho] using hn) ?_
      rw [shutdownSteps_snoc es rfl]
      exact .returned hf

theorem orderly_run {s : m.machine.State} (h : m.machine.Run m.machine.start es s) :
    Orderly m es (m.machine.phase s) (m.machine.closers s) := by
  induction h with
  | nil => cases m <;> exact .active rfl rfl rfl
  | snoc _ hs ih => exact orderly_step ih (Mode.passes hs)

namespace Orderly

theorem active_iff (h : Orderly m es p l) : p = .active ↔ .win ∉ es := by
  have hw : .win ∈ es ↔ .win ∈ shutdownSteps es := by simp [mem_shutdownSteps]
  rw [hw]
  cases h with
  | active hp _ hf => simp [hp, hf]
  | draining hp _ _ _ hd | closed hp _ hd => simp [hp, hd.win_mem]

theorem closed_iff (h : Orderly m es p l) : p = .closed ↔ .setClosed ∈ es := by
  have hw : .setClosed ∈ es ↔ .setClosed ∈ shutdownSteps es := by simp [mem_shutdownSteps]
  rw [hw]
  cases h with
  | active hp _ hf => simp [hp, hf]
  | draining hp _ ha _ hd => simp [hp, hd.setClosed_not_mem ha]
  | closed hp _ hd => simp [hp, Mode.setClosed_mem_of_script hd.mem_scripts]

theorem win_mem (h : Orderly m es p l) (he : e.shutsDown = true) (hm : e ∈ es) : .win ∈ es := by
  have hf : e ∈ shutdownSteps es := mem_shutdownSteps.mpr ⟨hm, he⟩
  cases h with
  | active _ _ hn =>
    rw [hn] at hf
    cases hf
  | draining _ _ _ _ hd | closed _ _ hd => exact (mem_shutdownSteps.mp hd.win_mem).1

theorem countP_isAhead (h : Orderly m es p l) :
    l.countP Closer.isAhead = if p = .draining then 1 else 0 := by
  cases h with
  | active hp hc => simp [hp, hc]
  | draining hp _ _ hc => simp [hp, hc]
  | closed hp hc => simp [hp, hc]

theorem exists_script (h : Orderly m es p l) :
    ∃ script ∈ m.scripts, shutdownSteps es <+: script := by
  cases h with
  | active _ _ hf =>
    rw [hf]
    cases m <;> exact ⟨_, List.mem_cons_self, List.nil_prefix⟩
  | draining _ _ _ _ hd | closed _ _ hd => exact hd.exists_script

/-- The shutdown that went ahead has made all steps of its script when it has returned. -/
theorem mem_scripts (h : Orderly m es p l) (hw : .win ∈ es)
    (hl : l.countP Closer.isAhead = 0) : p = .closed ∧ shutdownSteps es ∈ m.scripts := by
  have ha := h.active_iff
  cases h with
  | active hp => exact absurd hw (ha.mp hp)
  | draining _ _ _ ho => omega
  | closed hp _ hd => exact ⟨hp, hd.mem_scripts⟩

theorem phase_step (h : Orderly m es p l) (hs : Passes m p l e p' l') :
    p' = p ∨ (e = .win ∧ p = .active ∧ p' = .draining) ∨
      (e = .setClosed ∧ p = .draining ∧ p' = .closed) := by
  cases hs with
  | aside | call | lose | goOn => exact Or.inl rfl
  | win hp => exact Or.inr (Or.inl ⟨rfl, hp, rfl⟩)
  | setClosed mv =>
    cases h with
    | active _ hz | closed _ hz => exact absurd mv.mem (not_mem_of_countP_eq_zero hz rfl)
    | draining hp => exact Or.inr (Or.inr ⟨rfl, hp, rfl⟩)

end Orderly

end AuditTrail.Dispatch
