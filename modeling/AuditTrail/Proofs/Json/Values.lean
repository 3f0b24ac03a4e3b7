import AuditTrail.Json.Value
import AuditTrail.Proofs.Entries
import AuditTrail.Proofs.Json.Numerals

/-! # Depth, numbers and order of values

How deep a value nests, whether its numbers are integers, and the value with the members of its
objects in order.
-/

namespace AuditTrail.Json

namespace Value

/-! ## Properties of values -/

mutual

/-- How deep the containers of a value nest. -/
def depth : Value → Nat
  | .null | .bool _ | .number _ | .string _ => 0
  | .array items => itemsDepth items + 1
  | .object members => membersDepth members + 1

def itemsDepth : List Value → Nat
  | [] => 0
  | v :: vs => max (depth v) (itemsDepth vs)

def membersDepth : List (String × Value) → Nat
  | [] => 0
  | (_, v) :: ms => max (depth v) (membersDepth ms)

end

mutual

/-- All numbers of a value are integers that fit 64 bits. -/
def IsIntegral : Value → Prop
  | .null | .bool _ | .string _ => True
  | .number n => n.IsInteger
  | .array items => ItemsIntegral items
  | .object members => MembersIntegral members

def ItemsIntegral : List Value → Prop
  | [] => True
  | v :: vs => IsIntegral v ∧ ItemsIntegral vs

def MembersIntegral : List (String × Value) → Prop
  | [] => True
  | (_, v) :: ms => IsIntegral v ∧ MembersIntegral ms

end

theorem itemsDepth_le_iff {vs : List Value} {n : Nat} :
    itemsDepth vs ≤ n ↔ ∀ v ∈ vs, v.depth ≤ n := by
  induction vs with
  | nil => simp [itemsDepth]
  | cons v vs ih => rw [itemsDepth, Nat.max_le, ih, List.forall_mem_cons]

theorem itemsIntegral_iff {vs : List Value} : ItemsIntegral vs ↔ ∀ v ∈ vs, v.IsIntegral := by
  induction vs with
  | nil => simp [ItemsIntegral]
  | cons v vs ih => rw [ItemsIntegral, ih, List.forall_mem_cons]

theorem membersDepth_le_iff {ms : List (String × Value)} {n : Nat} :
    membersDepth ms ≤ n ↔ ∀ m ∈ ms, m.2.depth ≤ n := by
  induction ms with
  | nil => simp [membersDepth]
  | cons m ms ih => rw [membersDepth, Nat.max_le, ih, List.forall_mem_cons]

theorem membersIntegral_iff {ms : List (String × Value)} :
    MembersIntegral ms ↔ ∀ m ∈ ms, m.2.IsIntegral := by
  induction ms with
  | nil => simp [MembersIntegral]
  | cons m ms ih => rw [MembersIntegral, ih, List.forall_mem_cons]

theorem isIntegral_strings (items : List String) : (strings items).IsIntegral := by
  refine itemsIntegral_iff.mpr fun v hv => ?_
  obtain ⟨s, _, rfl⟩ := List.mem_map.mp hv
  trivial

theorem depth_strings (items : List String) : (strings items).depth = 1 := by
  have hz : itemsDepth (items.map .string) ≤ 0 := itemsDepth_le_iff.mpr fun v hv => by
    obtain ⟨s, _, rfl⟩ := List.mem_map.mp hv
    exact Nat.le_refl 0
  exact congrArg (· + 1) (Nat.le_zero.mp hz)

/-! ## Values in order -/

mutual

/-- The value with the members of each object in order, and of several of one name the last. -/
def normal : Value → Value
  | .array items => .array (normalItems items)
  | .object members => .object (Entries.ofList (normalMembers members))
  | .null => .null
  | .bool b => .bool b
  | .number n => .number n
  | .string s => .string s

def normalItems : List Value → List Value
  | [] => []
  | v :: vs => normal v :: normalItems vs

def normalMembers : List (String × Value) → List (String × Value)
  | [] => []
  | (k, v) :: ms => (k, normal v) :: normalMembers ms

end

mutual

theorem normal_of_ordered : ∀ {v : Value}, v.Ordered → v.normal = v
  | .null, _ | .bool _, _ | .number _, _ | .string _, _ => by simp only [normal]
  | .array items, .array h => by rw [normal, normalItems_of_ordered h]
  | .object members, .object ha h => by
    rw [normal, normalMembers_of_ordered h, Entries.ofList_of_ascending ha]

theorem normalItems_of_ordered : ∀ {vs : List Value}, OrderedItems vs → normalItems vs = vs
  | [], _ => rfl
  | v :: vs, .cons h hs => by
    rw [normalItems, normal_of_ordered h, normalItems_of_ordered hs]

theorem normalMembers_of_ordered :
    ∀ {ms : List (String × Value)}, OrderedMembers ms → normalMembers ms = ms
  | [], _ => rfl
  | (k, v) :: ms, .cons h hs => by
    rw [normalMembers, normal_of_ordered h, normalMembers_of_ordered hs]

end

theorem orderedItems_of_forall {vs : List Value} (h : ∀ v ∈ vs, v.Ordered) : OrderedItems vs := by
  induction vs with
  | nil => exact .nil
  | cons v vs ih =>
    rw [List.forall_mem_cons] at h
    exact .cons h.1 (ih h.2)

theorem orderedMembers_of_forall {ms : List (String × Value)} (h : ∀ m ∈ ms, m.2.Ordered) :
    OrderedMembers ms := by
  induction ms with
  | nil => exact .nil
  | cons m ms ih =>
    rw [List.forall_mem_cons] at h
    exact .cons h.1 (ih h.2)

end Value

end AuditTrail.Json
