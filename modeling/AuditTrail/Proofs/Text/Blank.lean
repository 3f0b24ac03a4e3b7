import AuditTrail.Text.Blank
import Mathlib.Data.List.TakeWhile

/-! # Text without blanks at its ends

Trimming takes blanks away from both ends and nothing else, and it takes away all blanks around
text that has none.
-/

namespace AuditTrail.Text

theorem dropWhile_isBlank_of_forall {before core : List Char}
    (hb : ∀ c ∈ before, isBlank c = true) (hc : ∀ c ∈ core, isBlank c = false) :
    (before ++ core).dropWhile isBlank = core := by
  rw [List.dropWhile_append_of_pos hb, List.dropWhile_eq_self_iff]
  intro hl
  simp [hc _ (List.getElem_mem hl)]

theorem exists_trim (s : String) :
    ∃ before after : List Char, s.toList = before ++ (trim s).toList ++ after ∧
      ∀ c ∈ before ++ after, isBlank c = true := by
  let rest := s.toList.dropWhile isBlank
  refine ⟨s.toList.takeWhile isBlank, (rest.reverse.takeWhile isBlank).reverse, ?_, ?_⟩
  · have hr : (rest.reverse.dropWhile isBlank).reverse ++ (rest.reverse.takeWhile isBlank).reverse =
        rest := by
      rw [← List.reverse_append, List.takeWhile_append_dropWhile, List.reverse_reverse]
    rw [trim, String.toList_ofList, dropBlanksEnd, List.append_assoc, hr,
      List.takeWhile_append_dropWhile]
  · intro c hc
    rw [List.mem_append, List.mem_reverse] at hc
    exact hc.elim List.mem_takeWhile_imp List.mem_takeWhile_imp

theorem toList_trim_of_blanks {s : String} {before core after : List Char}
    (h : s.toList = before ++ core ++ after) (hb : ∀ c ∈ before ++ after, isBlank c = true)
    (hc : ∀ c ∈ core, isBlank c = false) : (trim s).toList = core := by
  rw [List.forall_mem_append] at hb
  have hr : dropBlanksEnd (core ++ after) = core := by
    rw [dropBlanksEnd, List.reverse_append,
      dropWhile_isBlank_of_forall (fun c hm => hb.2 c (List.mem_reverse.mp hm))
        (fun c hm => hc c (List.mem_reverse.mp hm)),
      List.reverse_reverse]
  rw [trim, String.toList_ofList, h, List.append_assoc, List.dropWhile_append_of_pos hb.1]
  cases core with
  | nil =>
    rw [List.nil_append, List.dropWhile_eq_nil_iff.mpr hb.2]
    rfl
  | cons c core =>
    rw [List.cons_append, List.dropWhile_cons_of_neg (by simp [hc c List.mem_cons_self]),
      ← List.cons_append, hr]

end AuditTrail.Text
