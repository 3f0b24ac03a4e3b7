import AuditTrail.Proofs.Json.Values
import AuditTrail.Proofs.Record.Setters

/-! # Records made by setters

Each record starts with a category and a time and takes its values from setters. What setters
store has the members of objects in order, as long as values that are given as a whole do.
-/

namespace AuditTrail

namespace Json.Value

theorem ordered_strings (items : List String) : (strings items).Ordered := by
  refine .array (orderedItems_of_forall fun v hv => ?_)
  obtain ⟨s, _, rfl⟩ := List.mem_map.mp hv
  exact .string s

theorem ordered_texts {entries : List (String × String)} (h : Ascending entries) :
    (object (entries.map fun e => (e.1, string e.2))).Ordered := by
  refine .object ?_ (orderedMembers_of_forall fun m hm => ?_)
  · exact List.pairwise_map.mpr h
  · obtain ⟨e, _, rfl⟩ := List.mem_map.mp hm
    exact .string e.2

end Json.Value

namespace Record

open Json (Value)

/-- Records made by any sequence of setters. A value that is given as a whole is a value of JSON,
so its objects have their members in order. -/
inductive Built : Record → Prop
  | start (c : Category) (now : Instant) : Built { category := c, created := now }
  | stamped {r : Record} (h : Built r) (now : Instant) : Built (r.stamped now)
  | text {r : Record} (h : Built r) (f : Field) (t : Option String) : Built (r.text f t)
  | flag {r : Record} (h : Built r) (f : Field) (b : Option Bool) : Built (r.flag f b)
  | list {r : Record} (h : Built r) (f : Field) (items : List String) : Built (r.list f items)
  | table {r : Record} (h : Built r) (f : Field) (t : Table String) : Built (r.table f t)
  | value {r : Record} (h : Built r) (f : Field) {v : Value} (hv : v.Ordered) :
    Built (r.value f v)
  | origin {r : Record} (h : Built r) (o : Origin) : Built (r.origin o)

/-- Every stored value has the members of its objects in order. -/
def IsOrdered (r : Record) : Prop := ∀ f v, r.value? f = some v → v.Ordered

variable {r : Record}

theorem forall_value?_store {P : Field → Value → Prop} (h : ∀ g v, r.value? g = some v → P g v)
    {f : Field} {v : Value} (hv : P f v) : ∀ g w, (r.store f v).value? g = some w → P g w := by
  intro g w hw
  by_cases hg : g = f
  · subst hg
    rw [value?_store_self, Option.some.injEq] at hw
    exact hw ▸ hv
  · rw [value?_store_of_ne hg] at hw
    exact h g w hw

theorem IsOrdered.store (h : r.IsOrdered) (f : Field) {v : Value} (hv : v.Ordered) :
    (r.store f v).IsOrdered :=
  forall_value?_store (P := fun _ v => v.Ordered) h hv

theorem IsOrdered.text (h : r.IsOrdered) (f : Field) (t : Option String) :
    (r.text f t).IsOrdered := by
  rcases r.text_eq_store_or f t with ⟨s, _, _, hs⟩ | ⟨_, hs⟩
  · rw [hs]
    exact h.store f (.string s)
  · rw [hs]
    exact h

theorem Built.isOrdered (h : r.Built) : r.IsOrdered := by
  induction h with
  | start c now => exact fun f v hv => nomatch hv
  | stamped _ now ih => exact ih
  | text _ f t ih => exact ih.text f t
  | flag _ f b ih =>
    cases b with
    | none => exact ih
    | some b => exact ih.store f (.bool b)
  | list _ f items ih =>
    cases items with
    | nil => exact ih
    | cons s items => exact ih.store f (Value.ordered_strings _)
  | table _ f t ih =>
    unfold Record.table
    split
    · exact ih
    · exact ih.store f (Value.ordered_texts t.ascending)
  | value _ f hv ih =>
    unfold Record.value
    split
    · exact ih
    · exact ih.store f hv
  | origin _ o ih => exact ih.text .origin _

end Record

end AuditTrail
