import AuditTrail.Json.Tree
import AuditTrail.Proofs.Json.Values

/-! # Values that are read

Whatever document a value is read from: the members of its objects are in order, its integers fit
64 bits, and it nests no deeper than the reader lets it. If it has no doubles either, then it can
be written and read back.
-/

namespace AuditTrail

namespace Decimal

theorem collect_lt (ds : List Nat) {c : Collected} (h : c.significand < Nat.pow 2 64) :
    (collect c ds).significand < Nat.pow 2 64 := by
  induction ds generalizing c with
  | nil => exact h
  | cons d ds ih =>
    rw [collect]
    split
    · next hd => exact ih hd
    · exact h

end Decimal

namespace Json

namespace Number

/-- Integers fit 64 bits, signed or unsigned. -/
def Fits : Number → Prop
  | .int n => -(Nat.pow 2 63 : Int) ≤ n ∧ n < (Nat.pow 2 64 : Int)
  | .float _ => True

/-- A number is no double. -/
def IsWhole : Number → Prop
  | .int _ => True
  | .float _ => False

theorem isInteger_of {n : Number} (hw : n.IsWhole) (hf : n.Fits) : n.IsInteger := by
  cases n with
  | int n => exact hf
  | float bits => exact hw

end Number

theorem Numeral.fits_of_number? {n : Numeral} {m : Number} (h : n.number? = some m) :
    m.Fits := by
  have hc := Decimal.collect_lt n.whole (c := ⟨0, 0⟩) (by decide)
  rw [number?] at h
  simp only at h
  split at h
  · next hi =>
    simp only [Bool.and_eq_true, Bool.or_eq_true, Bool.not_eq_true', decide_eq_true_eq] at hi
    obtain rfl := Option.some.inj h
    have hp : Nat.pow 2 64 = 2 * Nat.pow 2 63 := rfl
    change -(Nat.pow 2 63 : Int) ≤ _ ∧ _ < (Nat.pow 2 64 : Int)
    split
    · next hn =>
      have hl := hi.2.resolve_left (by simp [hn])
      omega
    · omega
  · obtain ⟨f, -, rfl⟩ := Option.map_eq_some_iff.mp h
    trivial

namespace Value

/-! ## Numbers of a value -/

mutual

/-- All numbers of a value, at any depth, have a property. -/
def AllNumbers (P : Number → Prop) : Value → Prop
  | .null | .bool _ | .string _ => True
  | .number n => P n
  | .array items => AllItems P items
  | .object members => AllMembers P members

def AllItems (P : Number → Prop) : List Value → Prop
  | [] => True
  | v :: vs => AllNumbers P v ∧ AllItems P vs

def AllMembers (P : Number → Prop) : List (String × Value) → Prop
  | [] => True
  | (_, v) :: ms => AllNumbers P v ∧ AllMembers P ms

end

theorem allItems_of_forall {P : Number → Prop} {vs : List Value} (h : ∀ v ∈ vs, v.AllNumbers P) :
    AllItems P vs := by
  induction vs with
  | nil => trivial
  | cons v vs ih =>
    rw [List.forall_mem_cons] at h
    exact ⟨h.1, ih h.2⟩

theorem allMembers_of_forall {P : Number → Prop} {ms : List (String × Value)}
    (h : ∀ m ∈ ms, m.2.AllNumbers P) : AllMembers P ms := by
  induction ms with
  | nil => trivial
  | cons m ms ih =>
    rw [List.forall_mem_cons] at h
    exact ⟨h.1, ih h.2⟩

mutual

theorem isIntegral_of : ∀ {v : Value}, v.AllNumbers Number.IsWhole → v.AllNumbers Number.Fits →
    v.IsIntegral
  | .null, _, _ | .bool _, _, _ | .string _, _, _ => trivial
  | .number _, hw, hf => Number.isInteger_of hw hf
  | .array _, hw, hf => itemsIntegral_of hw hf
  | .object _, hw, hf => membersIntegral_of hw hf

theorem itemsIntegral_of : ∀ {vs : List Value}, AllItems Number.IsWhole vs →
    AllItems Number.Fits vs → ItemsIntegral vs
  | [], _, _ => trivial
  | _ :: _, hw, hf => ⟨isIntegral_of hw.1 hf.1, itemsIntegral_of hw.2 hf.2⟩

theorem membersIntegral_of : ∀ {ms : List (String × Value)}, AllMembers Number.IsWhole ms →
    AllMembers Number.Fits ms → MembersIntegral ms
  | [], _, _ => trivial
  | (_, _) :: _, hw, hf => ⟨isIntegral_of hw.1 hf.1, membersIntegral_of hw.2 hf.2⟩

end

/-! ## Reading -/

/-- What is true of a value that was read within a depth. -/
structure IsRead (n : Nat) (v : Value) : Prop where
  ordered : v.Ordered
  depth_le : v.depth ≤ n
  fits : v.AllNumbers Number.Fits

namespace IsRead

variable {n : Nat}

theorem array {vs : List Value} (h : ∀ v ∈ vs, v.IsRead n) : (Value.array vs).IsRead (n + 1) where
  ordered := .array (orderedItems_of_forall fun v hv => (h v hv).ordered)
  depth_le := Nat.succ_le_succ (itemsDepth_le_iff.mpr fun v hv => (h v hv).depth_le)
  fits := allItems_of_forall fun v hv => (h v hv).fits

theorem object {ms : List (String × Value)} (ha : Ascending ms) (h : ∀ m ∈ ms, m.2.IsRead n) :
    (Value.object ms).IsRead (n + 1) where
  ordered := .object ha (orderedMembers_of_forall fun m hm => (h m hm).ordered)
  depth_le := Nat.succ_le_succ (membersDepth_le_iff.mpr fun m hm => (h m hm).depth_le)
  fits := allMembers_of_forall fun m hm => (h m hm).fits

end IsRead

mutual

theorem isRead_of_value? : ∀ {t : Tree} {n : Nat} {v : Value}, t.value? n = some v → v.IsRead n
  | .null, n, v, h => by
    cases h
    exact ⟨.null, Nat.zero_le n, trivial⟩
  | .bool b, n, v, h => by
    cases h
    exact ⟨.bool b, Nat.zero_le n, trivial⟩
  | .number m, n, v, h => by
    rw [Tree.value?] at h
    obtain ⟨k, hk, rfl⟩ := Option.map_eq_some_iff.mp h
    exact ⟨.number k, Nat.zero_le n, Numeral.fits_of_number? hk⟩
  | .string text, n, v, h => by
    rw [Tree.value?] at h
    obtain ⟨s, -, rfl⟩ := Option.map_eq_some_iff.mp h
    exact ⟨.string s, Nat.zero_le n, trivial⟩
  | .array items, 0, v, h | .object members, 0, v, h => by cases h
  | .array items, n + 1, v, h => by
    rw [Tree.value?] at h
    obtain ⟨vs, hvs, rfl⟩ := Option.map_eq_some_iff.mp h
    exact .array (isRead_of_items? hvs)
  | .object members, n + 1, v, h => by
    rw [Tree.value?] at h
    obtain ⟨ms, hms, rfl⟩ := Option.map_eq_some_iff.mp h
    obtain ⟨ha, hr⟩ := isRead_of_members? hms List.Pairwise.nil (by simp)
    exact .object ha hr

theorem isRead_of_items? : ∀ {ts : List Tree} {n : Nat} {vs : List Value},
    Tree.items? n ts = some vs → ∀ v ∈ vs, v.IsRead n
  | [], n, vs, h => by
    cases h
    simp
  | t :: ts, n, vs, h => by
    simp only [Tree.items?, Option.bind_eq_bind, Option.bind_eq_some_iff, Option.some.injEq] at h
    obtain ⟨v, hv, ws, hws, rfl⟩ := h
    rw [List.forall_mem_cons]
    exact ⟨isRead_of_value? hv, isRead_of_items? hws⟩

theorem isRead_of_members? : ∀ {ts : List (Option String × Tree)} {n : Nat}
    {stored ms : List (String × Value)}, Tree.members? n ts stored = some ms → Ascending stored →
    (∀ m ∈ stored, m.2.IsRead n) → Ascending ms ∧ ∀ m ∈ ms, m.2.IsRead n
  | [], n, stored, ms, h, ha, hr => by
    cases h
    exact ⟨ha, hr⟩
  | (name, t) :: ts, n, stored, ms, h, ha, hr => by
    simp only [Tree.members?, Option.bind_eq_bind, Option.bind_eq_some_iff] at h
    obtain ⟨key, -, v, hv, h⟩ := h
    refine isRead_of_members? h (Entries.ascending_insert key v ha) fun m hm => ?_
    rcases Entries.mem_insert hm with rfl | hm
    · exact isRead_of_value? hv
    · exact hr m hm

end

end Value

end Json

end AuditTrail
