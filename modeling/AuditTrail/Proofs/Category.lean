import AuditTrail.Category
import AuditTrail.Proofs.Text.Blank
import Mathlib.Data.List.Induction
import Mathlib.Data.List.Nodup

/-! # Categories in text and over time

Which texts name a category, and which categories are on after any changes of the switches: those
that the last change that concerns them leaves on.
-/

namespace AuditTrail

/-! ## Names of categories -/

namespace Category

/-- Text that is the name of a category in letters of either case, between blanks. -/
def Named (c : Category) (s : String) : Prop :=
  ∃ before core after : List Char, s.toList = before ++ core ++ after ∧
    (∀ x ∈ before ++ after, Text.isBlank x = true) ∧
    core.map Char.toLower = c.name.toList.map Char.toLower

theorem toLower_eq_iff {s t : String} :
    s.toLower = t.toLower ↔ s.toList.map Char.toLower = t.toList.map Char.toLower := by
  change s.map Char.toLower = t.map Char.toLower ↔ _
  rw [← String.toList_inj, String.toList_map, String.toList_map]

theorem nodup_names : (all.map fun c => c.name.toList.map Char.toLower).Nodup := by
  decide +kernel

theorem eq_of_toLower_name {c d : Category} (h : c.name.toLower = d.name.toLower) : c = d :=
  List.inj_on_of_nodup_map nodup_names c.mem_all d.mem_all (toLower_eq_iff.mp h)

theorem not_isBlank_of_mem_name (c : Category) :
    ∀ x ∈ c.name.toList.map Char.toLower, Text.isBlank x = false := by
  have h : (c.name.toList.map Char.toLower).any Text.isBlank = false := by
    cases c <;> decide +kernel
  simpa only [Bool.not_eq_true] using List.any_eq_false.mp h

theorem toLower_of_isBlank {x : Char} (h : Text.isBlank x = true) : x.toLower = x := by
  have hn : ¬ ('A'.toNat ≤ x.toNat ∧ x.toNat ≤ 'Z'.toNat) := by
    simp only [Text.isBlank, Bool.or_eq_true, Bool.and_eq_true, decide_eq_true_eq,
      beq_iff_eq] at h
    change ¬ (65 ≤ x.toNat ∧ x.toNat ≤ 90)
    omega
  exact dif_neg hn

theorem ofName?_eq_some_iff {s : String} {c : Category} : ofName? s = some c ↔ c.Named s := by
  constructor
  · intro h
    obtain ⟨before, after, hs, hb⟩ := Text.exists_trim s
    have hc := List.find?_some h
    rw [beq_iff_eq, toLower_eq_iff] at hc
    exact ⟨before, _, after, hs, hb, hc.symm⟩
  · rintro ⟨before, core, after, hs, hb, hc⟩
    have hn : ∀ x ∈ core, Text.isBlank x = false := by
      intro x hx
      rw [Bool.eq_false_iff]
      intro hxb
      have hm : x.toLower ∈ c.name.toList.map Char.toLower := hc ▸ List.mem_map_of_mem hx
      have := not_isBlank_of_mem_name c _ hm
      rw [toLower_of_isBlank hxb, hxb] at this
      cases this
    have hl : c.name.toLower = (Text.trim s).toLower := by
      rw [toLower_eq_iff, Text.toList_trim_of_blanks hs hb hn, hc]
    cases ho : ofName? s with
    | none =>
      rw [ofName?, List.find?_eq_none] at ho
      exact absurd (beq_iff_eq.mpr hl) (ho c c.mem_all)
    | some d =>
      have hd := List.find?_some ho
      rw [beq_iff_eq, ← hl] at hd
      rw [eq_of_toLower_name hd]

end Category

/-! ## Switches -/

namespace CategoryFlags

/-- The switches after some changes, all of them being on at first. -/
def after (changes : List Change) : CategoryFlags := changes.foldl apply allOn

theorem after_concat (changes : List Change) (x : Change) :
    after (changes ++ [x]) = (after changes).apply x := by
  rw [after, List.foldl_append]
  rfl

/-- Whether a category is on by the last change that concerns it, if there is one. -/
def LastOn (c : Category) (changes : List Change) : Prop :=
  ∀ earlier on later, changes = earlier ++ .set c on :: later →
    (∀ x ∈ later, x ≠ .reset ∧ ∀ b, x ≠ .set c b) → on = true

theorem eq_concat_iff {α : Type} {a x : α} {earlier later l : List α} :
    l ++ [x] = earlier ++ a :: later ↔
      (l = earlier ∧ x = a ∧ later = []) ∨
        ∃ rest, later = rest ++ [x] ∧ l = earlier ++ a :: rest := by
  rcases List.eq_nil_or_concat later with rfl | ⟨rest, y, rfl⟩
  · simp
  · rw [List.concat_eq_append, ← List.cons_append, ← List.append_assoc]
    constructor
    · intro h
      obtain ⟨hl, hx⟩ := List.append_inj' h rfl
      exact Or.inr ⟨rest, by rw [hx], hl⟩
    · rintro (⟨-, -, h⟩ | ⟨rest', h, hl⟩)
      · simp at h
      · obtain ⟨rfl, hx⟩ := List.append_inj' h rfl
        rw [hl, hx]

theorem lastOn_concat_reset (c : Category) (changes : List Change) :
    LastOn c (changes ++ [.reset]) := by
  intro earlier on later h ha
  rcases eq_concat_iff.mp h with ⟨-, h, -⟩ | ⟨rest, rfl, -⟩
  · cases h
  · exact absurd rfl (ha .reset (by simp)).1

theorem lastOn_concat_set_self (c : Category) (on : Bool) (changes : List Change) :
    LastOn c (changes ++ [.set c on]) ↔ on = true := by
  constructor
  · intro h
    exact h changes on [] rfl nofun
  · rintro rfl earlier on later h ha
    rcases eq_concat_iff.mp h with ⟨-, h, -⟩ | ⟨rest, rfl, -⟩
    · cases h
      rfl
    · exact absurd rfl ((ha (.set c true) (by simp)).2 true)

theorem lastOn_concat_set_of_ne {c d : Category} (hd : d ≠ c) (on : Bool)
    (changes : List Change) : LastOn c (changes ++ [.set d on]) ↔ LastOn c changes := by
  constructor
  · intro h earlier on' later hl ha
    refine h earlier on' (later ++ [.set d on]) (by simp [hl]) fun x hx => ?_
    rcases List.mem_append.mp hx with hx | hx
    · exact ha x hx
    · rw [List.mem_singleton.mp hx]
      exact ⟨nofun, fun b hb => hd (Change.set.inj hb).1⟩
  · intro h earlier on' later hl ha
    rcases eq_concat_iff.mp hl with ⟨-, hl, -⟩ | ⟨rest, rfl, hr⟩
    · exact absurd (Change.set.inj hl).1 hd
    · exact h earlier on' rest hr fun x hx => ha x (List.mem_append_left _ hx)

theorem enabled_after_iff (changes : List Change) (c : Category) :
    (after changes).enabled c = true ↔ LastOn c changes := by
  induction changes using List.reverseRecOn with
  | nil => simp [after, allOn, LastOn]
  | append_singleton changes x ih =>
    rw [after_concat]
    cases x with
    | reset => exact iff_of_true rfl (lastOn_concat_reset c changes)
    | set d on =>
      by_cases h : c = d
      · subst h
        simp [apply, set, lastOn_concat_set_self]
      · simp [apply, set, h, ih, lastOn_concat_set_of_ne (Ne.symm h)]

end CategoryFlags

end AuditTrail
