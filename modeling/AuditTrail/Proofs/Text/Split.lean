import AuditTrail.Text.Split
import Mathlib.Tactic.SplitIfs

/-! # Parts between separators

Text that was put together from parts without separators is split into these parts again.
-/

namespace AuditTrail.Text

variable {separates : Char → Bool}

theorem splitWhere_cons (c : Char) (cs : List Char) :
    splitWhere separates (c :: cs) =
      if separates c then [] :: splitWhere separates cs
      else consFirst c (splitWhere separates cs) := rfl

theorem splitWhere_ne_nil : ∀ cs : List Char, splitWhere separates cs ≠ []
  | [] => List.cons_ne_nil _ _
  | c :: cs => by
    rw [splitWhere_cons]
    split_ifs
    · exact List.cons_ne_nil _ _
    · cases splitWhere separates cs <;> exact List.cons_ne_nil _ _

theorem consFirst_append {parts : List (List Char)} (h : parts ≠ []) (c : Char)
    (more : List (List Char)) : consFirst c (parts ++ more) = consFirst c parts ++ more := by
  cases parts with
  | nil => contradiction
  | cons part parts => rfl

/-- At a separator the text falls apart, whatever stands on either side. -/
theorem splitWhere_append_cons {s : Char} (hs : separates s = true) (cs ds : List Char) :
    splitWhere separates (cs ++ s :: ds) = splitWhere separates cs ++ splitWhere separates ds := by
  induction cs with
  | nil =>
    rw [List.nil_append, splitWhere_cons, if_pos hs]
    rfl
  | cons c cs ih =>
    rw [List.cons_append, splitWhere_cons, splitWhere_cons, ih,
      consFirst_append (splitWhere_ne_nil cs)]
    split_ifs <;> rfl

theorem splitWhere_append_of_forall {part first cs : List Char} {more : List (List Char)}
    (h : ∀ c ∈ part, separates c = false) (hs : splitWhere separates cs = first :: more) :
    splitWhere separates (part ++ cs) = (part ++ first) :: more := by
  induction part with
  | nil => exact hs
  | cons c part ih =>
    rw [List.forall_mem_cons] at h
    rw [List.cons_append, splitWhere_cons, if_neg (by simp [h.1]), ih h.2]
    rfl

theorem splitWhere_of_forall {part : List Char} (h : ∀ c ∈ part, separates c = false) :
    splitWhere separates part = [part] := by
  simpa using splitWhere_append_of_forall h (show splitWhere separates [] = [[]] from rfl)

theorem splitWhere_append {part : List Char} (h : ∀ c ∈ part, separates c = false) {s : Char}
    (hs : separates s = true) (cs : List Char) :
    splitWhere separates (part ++ s :: cs) = part :: splitWhere separates cs := by
  rw [splitWhere_append_cons hs, splitWhere_of_forall h, List.singleton_append]

theorem of_mem_splitWhere {cs part : List Char} (h : part ∈ splitWhere separates cs) :
    ∀ c ∈ part, c ∈ cs ∧ separates c = false := by
  induction cs generalizing part with
  | nil =>
    rw [List.mem_singleton.mp h]
    exact fun c hc => absurd hc List.not_mem_nil
  | cons d cs ih =>
    have ih' : ∀ p ∈ splitWhere separates cs, ∀ c ∈ p, c ∈ d :: cs ∧ separates c = false :=
      fun p hp c hc => ⟨List.mem_cons_of_mem d (ih hp c hc).1, (ih hp c hc).2⟩
    change part ∈ if separates d then [] :: splitWhere separates cs
      else consFirst d (splitWhere separates cs) at h
    split at h
    · rcases List.mem_cons.mp h with rfl | h
      · exact fun c hc => absurd hc List.not_mem_nil
      · exact ih' part h
    · next hd =>
      have hd : d ∈ d :: cs ∧ separates d = false :=
        ⟨List.mem_cons_self, Bool.not_eq_true _ ▸ hd⟩
      cases hs : splitWhere separates cs with
      | nil =>
        rw [hs, consFirst, List.mem_singleton] at h
        rw [h]
        exact List.forall_mem_singleton.mpr hd
      | cons p rest =>
        rw [hs] at ih'
        rw [hs, consFirst, List.mem_cons] at h
        rcases h with rfl | h
        · exact List.forall_mem_cons.mpr ⟨hd, ih' p List.mem_cons_self⟩
        · exact ih' part (List.mem_cons_of_mem p h)

theorem of_mem_split {separator : Char} {s part : String} (h : part ∈ split separator s) :
    part.toList ⊆ s.toList ∧ separator ∉ part.toList := by
  obtain ⟨cs, hcs, rfl⟩ := List.mem_map.mp h
  rw [String.toList_ofList]
  have hp := of_mem_splitWhere hcs
  exact ⟨fun c hc => (hp c hc).1, fun hs => by simpa using (hp separator hs).2⟩

theorem splitWhere_intercalate {s : Char} (hs : separates s = true) :
    ∀ {parts : List (List Char)}, parts ≠ [] →
      (∀ part ∈ parts, ∀ c ∈ part, separates c = false) →
      splitWhere separates (List.intercalate [s] parts) = parts
  | [part], _, h => by
    rw [List.intercalate_singleton]
    exact splitWhere_of_forall (h part List.mem_cons_self)
  | part :: next :: parts, _, h => by
    rw [List.forall_mem_cons] at h
    rw [List.intercalate_cons_cons, List.append_assoc, List.singleton_append,
      splitWhere_append h.1 hs, splitWhere_intercalate hs (List.cons_ne_nil _ _) h.2]

/-- The parts with the separators between them again are the text. -/
theorem intercalate_splitWhere (s : Char) (cs : List Char) :
    List.intercalate [s] (splitWhere (· == s) cs) = cs := by
  induction cs with
  | nil => rfl
  | cons c cs ih =>
    have hne : splitWhere (· == s) cs ≠ [] := splitWhere_ne_nil cs
    rw [splitWhere_cons]
    split
    · next hc =>
      rw [List.intercalate_cons_of_ne_nil hne, ih, beq_iff_eq.mp hc]
      rfl
    · obtain ⟨part, parts, hp⟩ := List.exists_cons_of_ne_nil hne
      rw [hp] at ih ⊢
      rw [consFirst, List.intercalate_cons_cons_left, ih]

theorem intercalate_append (s : Char) {parts more : List (List Char)} (hp : parts ≠ [])
    (hm : more ≠ []) : List.intercalate [s] (parts ++ more) =
      List.intercalate [s] parts ++ s :: List.intercalate [s] more := by
  induction parts with
  | nil => contradiction
  | cons part parts ih =>
    rw [List.cons_append, List.intercalate_cons_of_ne_nil (by simp [hm])]
    by_cases hn : parts = []
    · simp [hn]
    · rw [ih hn, List.intercalate_cons_of_ne_nil hn]
      simp

theorem split_ne_nil (separator : Char) (s : String) : split separator s ≠ [] := fun h =>
  splitWhere_ne_nil s.toList (List.map_eq_nil_iff.mp h)

theorem split_injective {separator : Char} {s t : String}
    (h : split separator s = split separator t) : s = t := by
  have hp : splitWhere (· == separator) s.toList = splitWhere (· == separator) t.toList :=
    (List.map_inj_right fun _ _ => String.ofList_injective).mp h
  rw [← String.toList_inj, ← intercalate_splitWhere separator s.toList, hp, intercalate_splitWhere]

theorem split_of_mem_split {separator : Char} {s part : String} (h : part ∈ split separator s) :
    split separator part = [part] := by
  have hn : ∀ c ∈ part.toList, (c == separator) = false := fun c hc =>
    beq_eq_false_iff_ne.mpr (ne_of_mem_of_not_mem hc (of_mem_split h).2)
  rw [split, splitWhere_of_forall hn, List.map_singleton, String.ofList_toList]

theorem mem_intercalate {sep c : Char} : ∀ {parts : List (List Char)},
    c ∈ List.intercalate [sep] parts → c = sep ∨ ∃ part ∈ parts, c ∈ part
  | [], h => by simp at h
  | [part], h => Or.inr ⟨part, List.mem_cons_self, by simpa using h⟩
  | part :: next :: parts, h => by
    rw [List.intercalate_cons_cons, List.mem_append, List.mem_append, List.mem_singleton] at h
    rcases h with (h | h) | h
    · exact Or.inr ⟨part, List.mem_cons_self, h⟩
    · exact Or.inl h
    · exact (mem_intercalate h).imp_right fun ⟨p, hp, hc⟩ => ⟨p, List.mem_cons_of_mem _ hp, hc⟩

theorem splitWhere_flatMap {s : Char} (hs : separates s = true) {parts : List (List Char)}
    (h : ∀ part ∈ parts, ∀ c ∈ part, separates c = false) :
    splitWhere separates (parts.flatMap fun part => part ++ [s]) = parts ++ [[]] := by
  induction parts with
  | nil => rfl
  | cons part parts ih =>
    rw [List.forall_mem_cons] at h
    rw [List.flatMap_cons, List.append_assoc, List.singleton_append, splitWhere_append h.1 hs,
      ih h.2]
    rfl

/-! ## Lines -/

/-- Text within one line. -/
def IsLine (cs : List Char) : Prop := '\n' ∉ cs

instance {cs : List Char} : Decidable (IsLine cs) := inferInstanceAs (Decidable ('\n' ∉ cs))

@[simp] theorem isLine_nil : IsLine [] := List.not_mem_nil

@[simp] theorem isLine_cons {c : Char} {cs : List Char} :
    IsLine (c :: cs) ↔ c ≠ '\n' ∧ IsLine cs := by
  simp [IsLine, eq_comm]

@[simp] theorem isLine_append {cs ds : List Char} :
    IsLine (cs ++ ds) ↔ IsLine cs ∧ IsLine ds := by
  simp [IsLine]

theorem IsLine.of_subset {cs ds : List Char} (h : IsLine ds) (hs : cs ⊆ ds) : IsLine cs :=
  fun hc => h (hs hc)

theorem isLine_flatMap {α : Type} {as : List α} {f : α → List Char}
    (h : ∀ a ∈ as, IsLine (f a)) : IsLine (as.flatMap f) := by
  intro hc
  obtain ⟨a, ha, hm⟩ := List.mem_flatMap.mp hc
  exact h a ha hm

end AuditTrail.Text
