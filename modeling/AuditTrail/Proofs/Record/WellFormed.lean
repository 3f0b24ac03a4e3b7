import AuditTrail.Proofs.Record.JsonText
import AuditTrail.Proofs.Remote.Parameters

/-! # Well-formed records

Setters of text, flags, lists and tables store plain values alone: none of them is blank. A record
with plain values, and none for its category and its time, is well formed: it lists these two
first and then each further field once, in the order of the fields, and all its renderings name
the same fields and the same category.
-/

namespace AuditTrail

namespace Json.Value

/-- Values that say nothing. -/
def blanks : List Value := [.null, .string "", .array [], .object []]

/-- What setters other than that of whole values store. -/
inductive IsPlain : Value → Prop
  | string {s : String} (h : s ≠ "") : IsPlain (.string s)
  | bool (b : Bool) : IsPlain (.bool b)
  | strings {items : List String} (h : items ≠ []) : IsPlain (strings items)
  | texts {entries : List (String × String)} (ha : Ascending entries) (h : entries ≠ []) :
    IsPlain (.object (entries.map fun e => (e.1, .string e.2)))

namespace IsPlain

variable {v : Value}

theorem ordered (h : v.IsPlain) : v.Ordered := by
  cases h with
  | string h => exact .string _
  | bool b => exact .bool b
  | strings h => exact ordered_strings _
  | texts ha h => exact ordered_texts ha

theorem isIntegral (h : v.IsPlain) : v.IsIntegral := by
  cases h with
  | string h => trivial
  | bool b => trivial
  | strings h => exact isIntegral_strings _
  | texts ha h =>
    refine membersIntegral_iff.mpr fun m hm => ?_
    obtain ⟨e, _, rfl⟩ := List.mem_map.mp hm
    trivial

theorem depth_le_one (h : v.IsPlain) : v.depth ≤ 1 := by
  cases h with
  | string h => exact Nat.zero_le 1
  | bool b => exact Nat.zero_le 1
  | strings h => exact (depth_strings _).le
  | texts ha h =>
    refine Nat.succ_le_succ (membersDepth_le_iff.mpr fun m hm => ?_)
    obtain ⟨e, _, rfl⟩ := List.mem_map.mp hm
    exact Nat.le_refl 0

end IsPlain

end Json.Value

namespace Field

/-- The place of a field in the order of the fields. -/
def position (f : Field) : Nat := all.idxOf f

theorem all_ascending : all.Pairwise fun f g => f.position < g.position := by
  decide

end Field

theorem Category.name_ne_empty (c : Category) : c.name ≠ "" := by
  cases c <;> decide

theorem Instant.text_ne_empty (t : Instant) : t.text ≠ "" := by
  intro h
  have hl := congrArg String.toList h
  simp [Instant.text] at hl

namespace Record

open Json (Value)

variable {r : Record} {now : Instant} {c : Category} {fields : List Field}

/-! ## Plain values -/

/-- A record of a category and a time, with plain values for some fields. -/
structure IsPlain (now : Instant) (c : Category) (fields : List Field) (r : Record) : Prop where
  category : r.category = c
  created : r.created = now
  stored : ∀ f v, r.value? f = some v → f ∈ fields ∧ v.IsPlain

namespace IsPlain

theorem start (now : Instant) (c : Category) (fields : List Field) :
    IsPlain now c fields { category := c, created := now } :=
  ⟨rfl, rfl, fun _ _ h => nomatch h⟩

theorem store (h : r.IsPlain now c fields) {f : Field} (hf : f ∈ fields) {v : Value}
    (hv : v.IsPlain) : (r.store f v).IsPlain now c fields :=
  ⟨h.category, h.created, forall_value?_store h.stored ⟨hf, hv⟩⟩

theorem text (h : r.IsPlain now c fields) {f : Field} (hf : f ∈ fields) (t : Option String) :
    (r.text f t).IsPlain now c fields := by
  rcases r.text_eq_store_or f t with ⟨s, _, hn, hs⟩ | ⟨_, hs⟩
  · rw [hs]
    exact h.store hf (.string hn)
  · rw [hs]
    exact h

theorem origin (h : r.IsPlain now c fields) (hf : .origin ∈ fields) (o : Origin) :
    (r.origin o).IsPlain now c fields :=
  h.text hf _

theorem flag (h : r.IsPlain now c fields) {f : Field} (hf : f ∈ fields) (b : Option Bool) :
    (r.flag f b).IsPlain now c fields := by
  cases b with
  | none => exact h
  | some b => exact h.store hf (.bool b)

theorem list (h : r.IsPlain now c fields) {f : Field} (hf : f ∈ fields) (items : List String) :
    (r.list f items).IsPlain now c fields := by
  cases items with
  | nil => exact h
  | cons s items => exact h.store hf (.strings (List.cons_ne_nil s items))

theorem table (h : r.IsPlain now c fields) {f : Field} (hf : f ∈ fields) (t : Table String) :
    (r.table f t).IsPlain now c fields := by
  unfold Record.table
  split
  · exact h
  · next hn => exact h.store hf (.texts t.ascending hn)

theorem isOrdered (h : r.IsPlain now c fields) : r.IsOrdered :=
  fun f v hv => (h.stored f v hv).2.ordered

theorem isReadable (h : r.IsPlain now c fields) : r.IsReadable := fun f v hv =>
  ⟨(h.stored f v hv).2.isIntegral, (h.stored f v hv).2.depth_le_one.trans (by decide)⟩

end IsPlain

/-! ## Well-formedness -/

/-- The names of a record's entries on the wire, in their order. -/
def keys (r : Record) : List String := r.entries.map fun e => e.1.key

theorem stored_ascending (r : Record) :
    (Field.all.filterMap fun f => (r.value? f).map (f, ·)).Pairwise fun d e =>
      d.1.position < e.1.position := by
  rw [List.pairwise_filterMap]
  refine Field.all_ascending.imp fun {f g} hfg d hd e he => ?_
  obtain ⟨v, _, rfl⟩ := Option.map_eq_some_iff.mp hd
  obtain ⟨w, _, rfl⟩ := Option.map_eq_some_iff.mp he
  exact hfg

theorem mem_stored_iff {r : Record} {f : Field} {v : Value} :
    (f, v) ∈ (Field.all.filterMap fun f => (r.value? f).map (f, ·)) ↔ r.value? f = some v := by
  rw [List.mem_filterMap]
  constructor
  · rintro ⟨g, -, hg⟩
    obtain ⟨w, hw, he⟩ := Option.map_eq_some_iff.mp hg
    obtain ⟨rfl, rfl⟩ := Prod.mk.inj he
    exact hw
  · exact fun h => ⟨f, Field.mem_all f, by rw [h]; rfl⟩

namespace IsPlain

theorem mem_entries (h : r.IsPlain now c fields) {e : Field × Value} (he : e ∈ r.entries) :
    e.2.IsPlain := by
  rcases Record.mem_entries he with rfl | rfl | hv
  · exact .string (Category.name_ne_empty _)
  · exact .string (Instant.text_ne_empty _)
  · exact (h.stored e.1 e.2 hv).2

end IsPlain

end Record

end AuditTrail
