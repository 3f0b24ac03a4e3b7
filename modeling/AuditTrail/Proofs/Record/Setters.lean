import AuditTrail.Record.Basic

/-! # What setters do to a record

A setter changes its own field or nothing. Records that agree on all fields but one still do
after the same setters, and whatever is stored for that one field.
-/

namespace AuditTrail.Record

open Json (Value)

variable {r s : Record} {f g : Field}

@[simp] theorem value?_store_of_ne (h : g ≠ f) (v : Value) :
    (r.store f v).value? g = r.value? g := by
  simp [store, h]

@[simp] theorem value?_store_self (r : Record) (f : Field) (v : Value) :
    (r.store f v).value? f = some v := by
  simp [store]

theorem text_eq_store_or (r : Record) (f : Field) (t : Option String) :
    (∃ s, t = some s ∧ s ≠ "" ∧ r.text f t = r.store f (.string s)) ∨
      ((∀ s, t = some s → s = "") ∧ r.text f t = r) := by
  cases t with
  | none => exact Or.inr ⟨by simp, rfl⟩
  | some s =>
    by_cases h : s = ""
    · exact Or.inr ⟨by simp [h], by simp [text, h]⟩
    · exact Or.inl ⟨s, rfl, h, by simp [text, h]⟩

@[simp] theorem value?_text_of_ne (h : g ≠ f) (t : Option String) :
    (r.text f t).value? g = r.value? g := by
  rcases r.text_eq_store_or f t with ⟨s, _, _, hs⟩ | ⟨_, hs⟩ <;> simp [hs, h]

@[simp] theorem value?_origin_of_ne (h : g ≠ .origin) (o : Origin) :
    (r.origin o).value? g = r.value? g :=
  value?_text_of_ne h _

@[simp] theorem value?_flag_of_ne (h : g ≠ f) (b : Option Bool) :
    (r.flag f b).value? g = r.value? g := by
  cases b <;> simp [flag, h]

@[simp] theorem value?_list_of_ne (h : g ≠ f) (items : List String) :
    (r.list f items).value? g = r.value? g := by
  cases items <;> simp [list, h]

@[simp] theorem value?_table_of_ne (h : g ≠ f) (t : Table String) :
    (r.table f t).value? g = r.value? g := by
  unfold table
  split <;> simp [h]

/-- A record is what it says of its category, its time and each field. -/
theorem eq_of_value?_eq (hc : r.category = s.category) (ht : r.created = s.created)
    (hv : ∀ f, r.value? f = s.value? f) : r = s := by
  obtain ⟨category, created, values⟩ := r
  obtain rfl : category = s.category := hc
  obtain rfl : created = s.created := ht
  obtain rfl : values = s.value? := funext hv
  rfl

theorem value?_text_eq_some_iff (h : r.value? f = none) (t : Option String) (v : Value) :
    (r.text f t).value? f = some v ↔ ∃ s, t = some s ∧ s ≠ "" ∧ v = .string s := by
  rcases r.text_eq_store_or f t with ⟨s, rfl, hne, hs⟩ | ⟨hall, hs⟩
  · simp [hs, hne, eq_comm]
  · simp only [hs, h, reduceCtorEq, false_iff]
    rintro ⟨s, rfl, hne, _⟩
    exact hne (hall s rfl)

theorem value?_text_self (h : r.value? f = none) (t : Option String) :
    (r.text f t).value? f = (t.filter fun s => !s.isEmpty).map .string := by
  cases t with
  | none => exact h
  | some s => by_cases hs : s = "" <;> simp [text, hs, h, Option.filter]

theorem string?_text_self (h : r.value? f = none) (t : Option String) :
    (r.text f t).string? f = t.filter fun s => !s.isEmpty := by
  rw [string?, value?_text_self h]
  cases t.filter fun s => !s.isEmpty <;> rfl

theorem value?_table_self (h : r.value? f = none) (t : Table String) :
    (r.table f t).value? f =
      if t.entries = [] then none
      else some (.object (t.entries.map fun e => (e.1, .string e.2))) := by
  unfold table
  split
  · next he => rw [he, if_pos rfl, h]
  · next he => rw [if_neg he, value?_store_self]

theorem string?_congr (h : r.value? f = s.value? f) : r.string? f = s.string? f := by
  rw [string?, string?, h]

@[simp] theorem text_none (r : Record) (f : Field) : r.text f none = r := rfl

@[simp] theorem list_nil (r : Record) (f : Field) : r.list f [] = r := rfl

/-! ## Times of creation -/

/-- The record as if it had been created at another time. -/
def stamped (r : Record) (now : Instant) : Record := { r with created := now }

@[simp] theorem text_stamped (now : Instant) (f : Field) (t : Option String) :
    (r.stamped now).text f t = (r.text f t).stamped now := by
  cases t with
  | none => rfl
  | some s =>
    simp only [text]
    split <;> rfl

@[simp] theorem origin_stamped (now : Instant) (o : Origin) :
    (r.stamped now).origin o = (r.origin o).stamped now :=
  text_stamped ..

@[simp] theorem flag_stamped (now : Instant) (f : Field) (b : Option Bool) :
    (r.stamped now).flag f b = (r.flag f b).stamped now := by
  cases b <;> rfl

@[simp] theorem list_stamped (now : Instant) (f : Field) (items : List String) :
    (r.stamped now).list f items = (r.list f items).stamped now := by
  cases items <;> rfl

@[simp] theorem table_stamped (now : Instant) (f : Field) (t : Table String) :
    (r.stamped now).table f t = (r.table f t).stamped now := by
  unfold table
  split <;> rfl

/-! ## Records that differ in one field -/

/-- Two records agree on all but one field. -/
structure AgreesBut (f : Field) (r s : Record) : Prop where
  category : r.category = s.category
  created : r.created = s.created
  value? : ∀ g, g ≠ f → r.value? g = s.value? g

namespace AgreesBut

variable (f) in
theorem refl (r : Record) : AgreesBut f r r := ⟨rfl, rfl, fun _ _ => rfl⟩

theorem symm (h : AgreesBut f r s) : AgreesBut f s r :=
  ⟨h.category.symm, h.created.symm, fun g hg => (h.value? g hg).symm⟩

theorem store (h : AgreesBut f r s) (g : Field) (v : Value) :
    AgreesBut f (r.store g v) (s.store g v) := by
  refine ⟨h.category, h.created, fun g' hg' => ?_⟩
  by_cases he : g' = g
  · simp [he]
  · simp [he, h.value? g' hg']

theorem store_left (h : AgreesBut f r s) (v : Value) : AgreesBut f (r.store f v) s :=
  ⟨h.category, h.created, fun g hg => by rw [value?_store_of_ne hg, h.value? g hg]⟩

theorem text (h : AgreesBut f r s) (g : Field) (t : Option String) :
    AgreesBut f (r.text g t) (s.text g t) := by
  cases t with
  | none => exact h
  | some x =>
    simp only [Record.text]
    split
    · exact h
    · exact h.store g _

theorem text_left (h : AgreesBut f r s) (t : Option String) : AgreesBut f (r.text f t) s := by
  rcases r.text_eq_store_or f t with ⟨x, _, _, hx⟩ | ⟨_, hx⟩
  · rw [hx]; exact h.store_left _
  · rw [hx]; exact h

theorem text_both (h : AgreesBut f r s) (t u : Option String) :
    AgreesBut f (r.text f t) (s.text f u) :=
  ((h.text_left t).symm.text_left u).symm

theorem table (h : AgreesBut f r s) (g : Field) (t : Table String) :
    AgreesBut f (r.table g t) (s.table g t) := by
  unfold Record.table
  split
  · exact h
  · exact h.store g _

theorem eq (h : AgreesBut f r s) (hf : r.value? f = s.value? f) : r = s := by
  refine eq_of_value?_eq h.category h.created fun g => ?_
  by_cases hg : g = f
  · rw [hg, hf]
  · exact h.value? g hg

end AgreesBut

end AuditTrail.Record
