import AuditTrail.Proofs.Entries
import AuditTrail.Proofs.Record.WellFormed
import Mathlib.Data.List.Induction

/-! # The last write to each field

A record that setters make has for each field what the last setter of that field stored, of those
that had anything to store. A setter without anything to store changes nothing, and the order in
which setters of different fields come does not matter.
-/

namespace AuditTrail.Record

open Json (Value)

/-! ## Setters -/

/-- One step in the making of a record. -/
inductive Setter
  | text (f : Field) (t : Option String)
  | flag (f : Field) (b : Option Bool)
  | list (f : Field) (items : List String)
  | table (f : Field) (t : Table String)
  | value (f : Field) (v : Value)
  | origin (o : Origin)
  | effectiveUser (t : Option String)
  | remoteAddress (t : Option String)
  | details (t : Option String)
  | created (t : Instant)

namespace Setter

def apply (r : Record) : Setter → Record
  | text f t => r.text f t
  | flag f b => r.flag f b
  | list f items => r.list f items
  | table f t => r.table f t
  | value f v => r.value f v
  | origin o => r.origin o
  | effectiveUser t => r.text .effectiveUser t
  | remoteAddress t => r.text .remoteAddress t
  | details t => r.text .details t
  | created t => r.stamped t

/-- The field of a setter; the time of creation is not a field. -/
def field? : Setter → Option Field
  | text f _ | flag f _ | list f _ | table f _ | value f _ => some f
  | origin _ => some .origin
  | effectiveUser _ => some .effectiveUser
  | remoteAddress _ => some .remoteAddress
  | details _ => some .details
  | created _ => none

/-- What a setter has to store, if its input is not empty. -/
def input? : Setter → Option Value
  | text _ t | effectiveUser t | remoteAddress t | details t =>
    (t.filter fun s => s != "").map .string
  | flag _ b => b.map .bool
  | list _ items => if items = [] then none else some (.strings items)
  | table _ t =>
    if t.entries = [] then none
    else some (.object (t.entries.map fun e => (e.1, .string e.2)))
  | value _ v => if v = .null then none else some v
  | origin o => some (.string o.tag)
  | created _ => none

/-- What a setter writes to a field. -/
def write? (f : Field) (s : Setter) : Option Value := if s.field? = some f then s.input? else none

/-- The time of creation that a setter states. -/
def time? : Setter → Option Instant
  | created t => some t
  | _ => none

end Setter

/-- The record of a category that setters make, one after the other. -/
def made (c : Category) (now : Instant) (ss : List Setter) : Record :=
  ss.foldl Setter.apply { category := c, created := now }

variable {r : Record} {f : Field} {v : Value} {s a b : Setter}

/-! ## One setter -/

theorem text_eq_of_filter (t : Option String) :
    r.text f t = (((t.filter fun s => s != "").map Value.string).map (r.store f)).getD r := by
  cases t with
  | none => rfl
  | some s => by_cases h : s = "" <;> simp [text, Option.filter, h]

theorem apply_eq (hf : s.field? = some f) : s.apply r = (s.input?.map (r.store f)).getD r := by
  cases s with
  | text g t | effectiveUser t | remoteAddress t | details t =>
    obtain rfl := Option.some.inj hf
    exact text_eq_of_filter t
  | flag g b =>
    obtain rfl := Option.some.inj hf
    cases b <;> rfl
  | list g items =>
    obtain rfl := Option.some.inj hf
    cases items <;> rfl
  | table g t =>
    obtain rfl := Option.some.inj hf
    simp only [Setter.apply, Record.table, Setter.input?]
    cases t.entries <;> rfl
  | value g v =>
    obtain rfl := Option.some.inj hf
    cases v <;> rfl
  | origin o =>
    obtain rfl := Option.some.inj hf
    cases o <;> rfl
  | created t => cases hf

theorem eq_created_of_field? (h : s.field? = none) : ∃ t, s = .created t := by
  cases s with
  | created t => exact ⟨t, rfl⟩
  | _ => cases h

theorem value?_apply (r : Record) (s : Setter) (f : Field) :
    (s.apply r).value? f = (s.write? f).or (r.value? f) := by
  cases hg : s.field? with
  | none =>
    obtain ⟨t, rfl⟩ := eq_created_of_field? hg
    rfl
  | some g =>
    rw [apply_eq hg, Setter.write?, hg]
    by_cases h : f = g
    · subst h
      cases s.input? <;> simp
    · cases s.input? <;> simp [h, Ne.symm h]

theorem category_apply (r : Record) (s : Setter) : (s.apply r).category = r.category := by
  cases hf : s.field? with
  | none =>
    obtain ⟨t, rfl⟩ := eq_created_of_field? hf
    rfl
  | some f =>
    rw [apply_eq hf]
    cases s.input? <;> rfl

theorem time?_eq_none (hf : s.field? = some f) : s.time? = none := by
  cases s with
  | created t => cases hf
  | _ => rfl

theorem created_apply (r : Record) (s : Setter) :
    (s.apply r).created = s.time?.getD r.created := by
  cases hf : s.field? with
  | none =>
    obtain ⟨t, rfl⟩ := eq_created_of_field? hf
    rfl
  | some f =>
    rw [apply_eq hf, time?_eq_none hf]
    cases s.input? <;> rfl

theorem write?_eq_none_iff : s.write? f = none ↔ s.input? = none ∨ s.field? ≠ some f := by
  rw [Setter.write?]
  split
  · next h => simp [h]
  · next h => simp [h]

theorem apply_comm (h : a.field? ≠ b.field?) (r : Record) :
    b.apply (a.apply r) = a.apply (b.apply r) := by
  apply eq_of_value?_eq
  · simp only [category_apply]
  · have ht : a.time? = none ∨ b.time? = none := by
      cases ha : a.field? with
      | some f => exact Or.inl (time?_eq_none ha)
      | none =>
        obtain ⟨f, hb⟩ := Option.ne_none_iff_exists'.mp fun hb => h (ha.trans hb.symm)
        exact Or.inr (time?_eq_none hb)
    simp only [created_apply]
    rcases ht with ht | ht <;> simp [ht]
  · intro f
    have hw : a.write? f = none ∨ b.write? f = none := by
      simp only [write?_eq_none_iff]
      by_cases ha : a.field? = some f
      · exact Or.inr (Or.inr fun hb => h (ha.trans hb.symm))
      · exact Or.inl (Or.inr ha)
    simp only [value?_apply]
    rcases hw with hw | hw <;> simp [hw]

/-! ## Many setters -/

variable {c : Category} {now : Instant} {ss : List Setter}

theorem made_concat (c : Category) (now : Instant) (ss : List Setter) (s : Setter) :
    made c now (ss ++ [s]) = s.apply (made c now ss) := by
  rw [made, List.foldl_append]
  rfl

theorem category_made (c : Category) (now : Instant) (ss : List Setter) :
    (made c now ss).category = c := by
  induction ss using List.reverseRecOn with
  | nil => rfl
  | append_singleton ss s ih => rw [made_concat, category_apply, ih]

theorem created_made (c : Category) (now : Instant) (ss : List Setter) :
    (made c now ss).created = (ss.filterMap Setter.time?).getLast?.getD now := by
  induction ss using List.reverseRecOn with
  | nil => rfl
  | append_singleton ss s ih =>
    rw [made_concat, created_apply, ih, getLast?_filterMap_concat]
    cases s.time? <;> rfl

theorem value?_made (c : Category) (now : Instant) (ss : List Setter) (f : Field) :
    (made c now ss).value? f = (ss.filterMap (Setter.write? f)).getLast? := by
  induction ss using List.reverseRecOn with
  | nil => rfl
  | append_singleton ss s ih => rw [made_concat, value?_apply, ih, getLast?_filterMap_concat]

/-- A record that setters make. For each field it has what the last setter of the field wrote that
had anything to store, and nothing if there is none; a setter without anything to store, or of
another field, leaves what is there. It lists its category and the last time that was stated, then
each field that has a value once and in the order of the fields. Setters that follow each other may
be exchanged, unless they are of one field. -/
theorem made_by_last_writes (c : Category) (now : Instant) (ss : List Setter) :
    (∀ f, (made c now ss).value? f = (ss.filterMap (Setter.write? f)).getLast?) ∧
      (∀ (r : Record) (s : Setter) (f : Field), s.input? = none ∨ s.field? ≠ some f →
        (s.apply r).value? f = r.value? f) ∧
      (∃ stored : List (Field × Value), (made c now ss).entries =
          (.category, .string c.name) ::
            (.timestamp, .string ((ss.filterMap Setter.time?).getLast?.getD now).text) :: stored ∧
        (stored.Pairwise fun d e => d.1.position < e.1.position) ∧
        ∀ f v, (f, v) ∈ stored ↔ (made c now ss).value? f = some v) ∧
      ∀ before a b after, ss = before ++ a :: b :: after → a.field? ≠ b.field? →
        made c now (before ++ b :: a :: after) = made c now ss := by
  refine ⟨value?_made c now ss, ?kept, ⟨_, ?listed, stored_ascending _, fun _ _ => mem_stored_iff⟩,
    ?exchanged⟩
  case kept =>
    intro r s f h
    rw [value?_apply, write?_eq_none_iff.mpr h, Option.none_or]
  case listed => rw [entries, category_made, created_made]
  case exchanged =>
    rintro before a b after rfl h
    simp only [made, List.foldl_append, List.foldl_cons, apply_comm h]

/-- Two setters of a user, then some without anything to store, among them one of a value as a
whole; a flag and a time that are exchanged. -/
theorem made_by_last_writes_of_empty_inputs :
    let before : List Setter := [.effectiveUser (some "eve"), .list .indices ["logs"],
      .text .effectiveUser (some "bob"), .list .indices [], .text .effectiveUser (some ""),
      .value .effectiveUser .null]
    let flag : Setter := .flag .effectiveUserIsAdmin (some false)
    let time : Setter := .created { seconds := 1 }
    let r := made .failedLogin { seconds := 0 } (before ++ [flag, time])
    r.value? .effectiveUser = some (.string "bob") ∧ r.value? .indices = some (.strings ["logs"]) ∧
      r.value? .details = none ∧ flag.field? ≠ time.field? ∧
      made .failedLogin { seconds := 0 } (before ++ [time, flag]) = r ∧
      (Setter.list .indices []).input? = none ∧
      ((Setter.list .indices []).apply r).value? .indices = r.value? .indices := by
  intro before flag time r
  obtain ⟨hv, hk, -, hx⟩ :=
    made_by_last_writes .failedLogin { seconds := 0 } (before ++ [flag, time])
  have hf : flag.field? ≠ time.field? := by decide
  refine ⟨(hv _).trans ?_, (hv _).trans ?_, (hv _).trans ?_, hf, hx before flag time [] rfl hf, rfl,
    hk r _ _ (Or.inl rfl)⟩ <;> decide +kernel

end AuditTrail.Record
