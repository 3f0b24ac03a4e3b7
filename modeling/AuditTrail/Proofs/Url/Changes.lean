import AuditTrail.Proofs.Url.Percent
import AuditTrail.Url.Reader
import Mathlib.Tactic.SplitIfs

/-! # Changing URLs

The query of a URL that was read has no characters that queries code, and a query without such
characters is put into a URL as it is.
-/

namespace AuditTrail.Url

variable {special : Bool} {c : Char}

/-! ## Characters of queries -/

theorem codedInQuery_eq_false (hl : 0x20 ≤ c.toNat) (hu : c.toNat < 0x7F)
    (hm : c ∉ [' ', '"', '#', '<', '>', '\'']) : codedInQuery special c = false := by
  simp only [List.mem_cons, List.not_mem_nil, or_false, not_or] at hm
  have ha : codedAlways c = false := by
    simpa [codedAlways] using ⟨hl, hu⟩
  simp [codedInQuery, ha, hm]

theorem bounds_of_isAlphanum (h : c.isAlphanum = true) : 0x30 ≤ c.toNat ∧ c.toNat < 0x7B := by
  change (decide ('A'.val ≤ c.val ∧ c.val ≤ 'Z'.val) ||
    (decide ('a'.val ≤ c.val) && decide (c.val ≤ 'z'.val)) ||
    (decide ('0'.val ≤ c.val) && decide (c.val ≤ '9'.val))) = true at h
  simp only [Bool.or_eq_true, Bool.and_eq_true, decide_eq_true_eq, UInt32.le_iff_toNat_le,
    Char.reduceVal, UInt32.reduceToNat, Char.toNat_val] at h
  omega

theorem codedInQuery_of_isAlphanum (h : c.isAlphanum = true) :
    codedInQuery special c = false := by
  have hb := bounds_of_isAlphanum h
  refine codedInQuery_eq_false (by omega) (by omega) fun hm => ?_
  simp only [List.mem_cons, List.not_mem_nil, or_false] at hm
  rcases hm with rfl | rfl | rfl | rfl | rfl | rfl <;> contradiction

theorem codedInQuery_of_isCode (h : isCode c = true) : codedInQuery special c = false := by
  rcases Bool.or_eq_true _ _ ▸ h with h | h
  · rw [beq_iff_eq.mp h]
    cases special <;> rfl
  · exact codedInQuery_of_isAlphanum h

theorem not_isTabOrNewline (h : codedAlways c = false) : isTabOrNewline c = false := by
  refine Bool.eq_false_iff.mpr fun ht => ?_
  simp only [isTabOrNewline, Bool.or_eq_true, beq_iff_eq] at ht
  rcases ht with (rfl | rfl) | rfl <;> contradiction

theorem not_codedAlways_of_query (h : codedInQuery special c = false) : codedAlways c = false := by
  simp only [codedInQuery, Bool.or_eq_false_iff] at h
  exact h.1.1.1.1.1.1

/-! ## Queries -/

section Results

variable {ε α β : Type} {x : Except ε α}

theorem eq_of_bind_pure {f : α → β} {b : β} (h : (x >>= fun a => pure (f a)) = .ok b) :
    ∃ a, b = f a := by
  cases x with
  | error e => cases h
  | ok a => exact ⟨a, (Except.ok.inj h).symm⟩

theorem eq_ok_of_toOption {a : α} (h : x.toOption = some a) : x = .ok a := by
  cases x with
  | error e => cases h
  | ok b => rw [Option.some.inj h]

end Results

theorem exists_query_of_ofText {s : String} {u : Url} (h : ofText s = .ok u) :
    ∃ query : Option (List Char), u.query =
      query.map fun cs => String.ofList (encode (codedInQuery (isSpecial u.scheme)) cs) := by
  cases hs : scheme? (cleaned s.toList) with
  | none =>
    simp only [ofText, hs] at h
    cases h
  | some p =>
    simp only [ofText, hs] at h
    split_ifs at h
    all_goals
      obtain ⟨b, rfl⟩ := eq_of_bind_pure h
      exact ⟨_, rfl⟩

theorem uncoded_of_mem_query {s : String} {u : Url} (h : ofText s = .ok u) {query : String}
    (hq : u.query = some query) :
    ∀ c ∈ query.toList, codedInQuery (isSpecial u.scheme) c = false := by
  obtain ⟨cs, hcs⟩ := exists_query_of_ofText h
  rw [hq, eq_comm, Option.map_eq_some_iff] at hcs
  obtain ⟨cs, -, rfl⟩ := hcs
  rw [String.toList_ofList]
  exact forall_mem_encode (fun _ => codedInQuery_of_isCode) cs

theorem withQuery_of_forall {u : Url} {query : String}
    (h : ∀ c ∈ query.toList, codedInQuery (isSpecial u.scheme) c = false) :
    u.withQuery query = { u with query := some query } := by
  have hk : dropTabsAndNewlines query.toList = query.toList := by
    apply List.filter_eq_self.mpr
    intro c hc
    rw [not_isTabOrNewline (not_codedAlways_of_query (h c hc))]
    rfl
  rw [withQuery, hk, encode_of_forall h, String.ofList_toList]

end AuditTrail.Url
