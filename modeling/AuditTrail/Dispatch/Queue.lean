/-! # Bounded queues

First in, first out. A queue never holds more than its capacity, and it takes nothing once it is
closed; what it holds can still be taken out.
-/

namespace AuditTrail.Dispatch

structure Queue (α : Type) where
  capacity : Nat
  items : List α := []
  isOpen : Bool := true
  length_le : items.length ≤ capacity := by exact Nat.zero_le _

namespace Queue

variable {α : Type}

/-- Puts an item at the end, if there is room for it. -/
def offer? (q : Queue α) (a : α) : Option (Queue α) :=
  if h : q.isOpen ∧ q.items.length < q.capacity then
    some { q with items := q.items ++ [a], length_le := by simp; omega }
  else none

/-- The first item, and the rest. -/
def take? (q : Queue α) : Option (α × Queue α) :=
  match h : q.items with
  | [] => none
  | a :: rest =>
    some (a, { q with
      items := rest
      length_le := by have := q.length_le; rw [h, List.length_cons] at this; omega })

def close (q : Queue α) : Queue α := { q with isOpen := false }

/-- The queue without its items. -/
def clear (q : Queue α) : Queue α := { q with items := [], length_le := Nat.zero_le _ }

theorem offer?_eq_some_iff {q r : Queue α} {a : α} :
    q.offer? a = some r ↔ (q.isOpen = true ∧ q.items.length < q.capacity) ∧
      r.items = q.items ++ [a] ∧ r.capacity = q.capacity ∧ r.isOpen = q.isOpen := by
  unfold offer?
  split
  · next h =>
    rw [Option.some.injEq]
    constructor
    · rintro rfl
      exact ⟨h, rfl, rfl, rfl⟩
    · rintro ⟨-, hi, hc, ho⟩
      cases r
      simp_all
  · next h => simp [h]

theorem items_of_offer? {q r : Queue α} {a : α} (h : q.offer? a = some r) :
    r.items = q.items ++ [a] :=
  (offer?_eq_some_iff.mp h).2.1

theorem offer?_eq_none_iff (q : Queue α) (a : α) :
    q.offer? a = none ↔ q.isOpen = false ∨ q.capacity ≤ q.items.length := by
  unfold offer?
  split
  · next h => simp [h.1, h.2]
  · next h =>
    cases ho : q.isOpen
    · simp
    · simpa [ho] using h

theorem take?_eq_some_iff {q r : Queue α} {a : α} :
    q.take? = some (a, r) ↔
      q.items = a :: r.items ∧ r.capacity = q.capacity ∧ r.isOpen = q.isOpen := by
  unfold take?
  split
  · next h => simp [h]
  · next b rest h =>
    rw [Option.some.injEq, Prod.mk.injEq]
    constructor
    · rintro ⟨rfl, rfl⟩
      exact ⟨h, rfl, rfl⟩
    · rintro ⟨hi, hc, ho⟩
      cases r
      simp_all

theorem items_of_take? {q r : Queue α} {a : α} (h : q.take? = some (a, r)) :
    q.items = a :: r.items :=
  (take?_eq_some_iff.mp h).1

theorem take?_eq_none_iff (q : Queue α) : q.take? = none ↔ q.items = [] := by
  unfold take?
  split
  · next h => simp [h]
  · next h => simp [h]

end Queue

end AuditTrail.Dispatch
