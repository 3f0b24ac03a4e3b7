import AuditTrail.Proofs.Entries
import AuditTrail.Json.Value

/-! # Paths through nested objects

What stands at the end of a path of names, and values that are put at the ends of paths one after
the other. A value that is put there is found, other paths lead where they led before, and a
path that ends on the way leads to an object.
-/

namespace AuditTrail.Json.Value

/-- A value without parts. -/
def IsScalar : Value → Prop
  | .null | .bool _ | .number _ | .string _ => True
  | .array _ | .object _ => False

instance : (v : Value) → Decidable v.IsScalar
  | .null | .bool _ | .number _ | .string _ => isTrue trivial
  | .array _ | .object _ => isFalse id

/-- The members of an object; any other value has none. -/
def members : Value → List (String × Value)
  | .object members => members
  | _ => []

/-- The value at the end of a path. -/
def at? (v : Value) (path : List String) : Option Value := path.foldlM member? v

/-- Puts a value at the end of a path. Objects on the way keep their other members, and whatever
else stands on the way becomes an object. -/
def put (v : Value) : List String → Value → Value
  | [], new => new
  | name :: path, new =>
    .object (Entries.insert name (put ((v.member? name).getD (.object [])) path new) v.members)

/-- Neither of two paths leads through the end of the other. -/
def Apart (p q : List String) : Prop := ¬ p <+: q ∧ ¬ q <+: p

theorem Apart.symm {p q : List String} (h : Apart p q) : Apart q p := And.symm h

variable {v new : Value} {p q : List String}

theorem member?_eq (v : Value) (name : String) : v.member? name = Entries.find? name v.members := by
  cases v <;> rfl

theorem member?_put (v new : Value) (name other : String) (path : List String) :
    (v.put (name :: path) new).member? other =
      if name = other then some (((v.member? name).getD (.object [])).put path new)
      else v.member? other := by
  rw [put, member?, Entries.find?_insert, member?_eq v other]

@[simp] theorem at?_nil (v : Value) : v.at? [] = some v := rfl

theorem at?_cons (v : Value) (name : String) (path : List String) :
    v.at? (name :: path) = (v.member? name).bind fun w => w.at? path := rfl

theorem at?_empty (h : p ≠ []) : (object []).at? p = none := by
  cases p with
  | nil => contradiction
  | cons name path => rfl

theorem IsScalar.at? (h : v.IsScalar) (hp : p ≠ []) : v.at? p = none := by
  cases p with
  | nil => contradiction
  | cons name path =>
    cases v with
    | array items => exact h.elim
    | object members => exact h.elim
    | _ => rfl

/-! ## One value -/

theorem at?_put_append (v new : Value) (p q : List String) :
    (v.put p new).at? (p ++ q) = new.at? q := by
  induction p generalizing v with
  | nil => rfl
  | cons name path ih =>
    rw [List.cons_append, at?_cons, member?_put, if_pos rfl, Option.bind_some, ih]

theorem at?_put_of_apart (h : Apart p q) (v new : Value) : (v.put p new).at? q = v.at? q := by
  induction p generalizing v q with
  | nil => exact absurd List.nil_prefix h.1
  | cons name path ih =>
    cases q with
    | nil => exact absurd List.nil_prefix h.2
    | cons other rest =>
      rw [at?_cons, at?_cons, member?_put]
      split
      · next hn =>
        subst hn
        have ha : Apart path rest :=
          ⟨fun hp => h.1 (List.cons_prefix_cons.mpr ⟨rfl, hp⟩),
            fun hp => h.2 (List.cons_prefix_cons.mpr ⟨rfl, hp⟩)⟩
        rw [Option.bind_some, ih ha]
        cases v.member? name with
        | some w => rfl
        | none => exact at?_empty fun hr => ha.2 (hr ▸ List.nil_prefix)
      · rfl

theorem at?_put_of_prefix (h : q <+: p) (hne : q ≠ p) (v new : Value) :
    ∃ members, (v.put p new).at? q = some (.object members) := by
  induction q generalizing v p with
  | nil =>
    obtain ⟨name, path, rfl⟩ := List.exists_cons_of_ne_nil hne.symm
    exact ⟨_, rfl⟩
  | cons name path ih =>
    obtain ⟨rest, rfl⟩ := h
    rw [List.cons_append] at hne ⊢
    rw [at?_cons, member?_put, if_pos rfl, Option.bind_some]
    exact ih (List.prefix_append path rest) (fun hp => hne (congrArg _ hp)) _

theorem of_at?_put {w : Value} (hn : new.IsScalar) (hw : w.IsScalar)
    (h : (v.put p new).at? q = some w) : (q = p ∧ w = new) ∨ v.at? q = some w := by
  by_cases hp : p <+: q
  · obtain ⟨rest, rfl⟩ := hp
    rw [at?_put_append] at h
    cases rest with
    | nil => exact Or.inl ⟨List.append_nil p, (Option.some.inj h).symm⟩
    | cons name path =>
      rw [hn.at? (List.cons_ne_nil name path)] at h
      cases h
  · by_cases hq : q <+: p
    · have hne : q ≠ p := fun he => hp (he ▸ List.prefix_refl q)
      obtain ⟨members, hm⟩ := at?_put_of_prefix hq hne v new
      rw [hm] at h
      obtain rfl := Option.some.inj h
      exact hw.elim
    · exact Or.inr ((at?_put_of_apart ⟨hp, hq⟩ v new).symm.trans h)

/-! ## Many values -/

/-- An object that holds values at the ends of paths, put there one after the other. -/
def ofPaths (es : List (List String × Value)) : Value :=
  es.foldl (fun v e => v.put e.1 e.2) (.object [])

variable {es : List (List String × Value)}

theorem at?_foldl_put_of_apart (h : ∀ e ∈ es, Apart e.1 q) (v : Value) :
    (es.foldl (fun v e => v.put e.1 e.2) v).at? q = v.at? q := by
  induction es generalizing v with
  | nil => rfl
  | cons e es ih =>
    rw [List.forall_mem_cons] at h
    rw [List.foldl_cons, ih h.2, at?_put_of_apart h.1]

theorem of_at?_foldl_put {w : Value} (hs : ∀ e ∈ es, e.2.IsScalar) (hw : w.IsScalar)
    (h : (es.foldl (fun v e => v.put e.1 e.2) v).at? q = some w) :
    (q, w) ∈ es ∨ v.at? q = some w := by
  induction es generalizing v with
  | nil => exact Or.inr h
  | cons e es ih =>
    rw [List.forall_mem_cons] at hs
    rcases ih hs.2 h with hm | hv
    · exact Or.inl (List.mem_cons_of_mem e hm)
    · rcases of_at?_put hs.1 hw hv with ⟨hq, hn⟩ | hv
      · exact Or.inl (List.mem_cons.mpr (Or.inl (Prod.ext hq hn)))
      · exact Or.inr hv

/-- Of paths that are apart, each leads to its value and to this alone; nothing else is a scalar. -/
theorem at?_ofPaths_eq_some_iff (ha : es.Pairwise fun d e => Apart d.1 e.1)
    (hs : ∀ e ∈ es, e.2.IsScalar) {w : Value} (hw : w.IsScalar) :
    (ofPaths es).at? q = some w ↔ (q, w) ∈ es := by
  constructor
  · intro h
    rcases of_at?_foldl_put hs hw h with hm | hv
    · exact hm
    · cases q with
      | nil =>
        obtain rfl := Option.some.inj hv
        exact hw.elim
      | cons name path => cases hv
  · intro h
    obtain ⟨before, after, rfl⟩ := List.append_of_mem h
    obtain ⟨-, ha, -⟩ := List.pairwise_append.mp ha
    have hq : ∀ e ∈ after, Apart e.1 q := fun e he => ((List.pairwise_cons.mp ha).1 e he).symm
    rw [ofPaths, List.foldl_append, List.foldl_cons, at?_foldl_put_of_apart hq]
    simpa using at?_put_append _ w q []

theorem exists_of_at?_ofPaths {w : Value} (hq : q ≠ []) (h : (ofPaths es).at? q = some w) :
    ∃ e ∈ es, e.1 <+: q ∨ q <+: e.1 := by
  by_contra hn
  push Not at hn
  rw [ofPaths, at?_foldl_put_of_apart hn, at?_empty hq] at h
  cases h

theorem ascending_members_put (h : Ascending v.members) {name : String} {path : List String} :
    Ascending (v.put (name :: path) new).members :=
  Entries.ascending_insert _ _ h

theorem ascending_members_ofPaths (h : ∀ e ∈ es, e.1 ≠ []) : Ascending (ofPaths es).members := by
  suffices hf : ∀ v : Value, Ascending v.members →
      Ascending (es.foldl (fun v e => v.put e.1 e.2) v).members from hf _ List.Pairwise.nil
  induction es with
  | nil => exact fun v hv => hv
  | cons e es ih =>
    rw [List.forall_mem_cons] at h
    obtain ⟨name, path, he⟩ := List.exists_cons_of_ne_nil h.1
    intro v hv
    rw [List.foldl_cons, he]
    exact ih h.2 _ (ascending_members_put hv)

end AuditTrail.Json.Value
