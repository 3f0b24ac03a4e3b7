import AuditTrail.Entries
import Mathlib.Data.List.Sort

/-! # Entries in order

Storing entries that are in order already changes nothing, and what is stored is all from the pairs.
What is found under each name determines entries in order, and the names of a set determine their
list.
-/

namespace AuditTrail.Entries

variable {α : Type}

theorem insert_of_forall_lt {entries : List (String × α)} {name : String} (value : α)
    (h : ∀ e ∈ entries, e.1 < name) : insert name value entries = entries ++ [(name, value)] := by
  induction entries with
  | nil => rfl
  | cons e entries ih =>
    rw [List.forall_mem_cons] at h
    have hlt : ¬ name < e.1 := String.lt_asymm h.1
    have hne : e.1 ≠ name := fun he => String.lt_irrefl name (he ▸ h.1)
    rw [insert, if_neg hlt, if_neg hne, ih h.2]
    rfl

theorem ofList_of_ascending {entries : List (String × α)} (h : Ascending entries) :
    ofList entries = entries := by
  suffices hf : ∀ before, Ascending (before ++ entries) →
      entries.foldl (fun es e => insert e.1 e.2 es) before = before ++ entries from hf [] h
  clear h
  induction entries with
  | nil => exact fun before _ => (List.append_nil before).symm
  | cons e entries ih =>
    intro before hb
    have hlt : ∀ d ∈ before, d.1 < e.1 := fun d hd =>
      (List.pairwise_append.mp hb).2.2 d hd e List.mem_cons_self
    rw [List.foldl_cons, insert_of_forall_lt _ hlt, ih _ (by simpa using hb)]
    simp

theorem mem_of_mem_ofList {pairs : List (String × α)} {e : String × α} (h : e ∈ ofList pairs) :
    e ∈ pairs := by
  suffices hf : ∀ before, e ∈ pairs.foldl (fun es p => insert p.1 p.2 es) before →
      e ∈ before ∨ e ∈ pairs by
    exact (hf [] h).resolve_left List.not_mem_nil
  clear h
  induction pairs with
  | nil => exact fun before h => Or.inl h
  | cons p pairs ih =>
    intro before h
    rcases ih _ h with h | h
    · rcases mem_insert h with rfl | h
      · exact Or.inr List.mem_cons_self
      · exact Or.inl h
    · exact Or.inr (List.mem_cons_of_mem p h)

theorem find?_foldl_insert_of_forall_ne {pairs : List (String × α)} {name : String}
    (h : ∀ p ∈ pairs, p.1 ≠ name) (entries : List (String × α)) :
    find? name (pairs.foldl (fun es p => insert p.1 p.2 es) entries) = find? name entries := by
  induction pairs generalizing entries with
  | nil => rfl
  | cons p pairs ih =>
    rw [List.forall_mem_cons] at h
    rw [List.foldl_cons, ih h.2, find?_insert, if_neg h.1]

/-- The last pair of a name is found. -/
theorem find?_ofList_append {before after : List (String × α)} {name : String} {value : α}
    (h : ∀ p ∈ after, p.1 ≠ name) :
    find? name (ofList (before ++ (name, value) :: after)) = some value := by
  rw [ofList, List.foldl_append, List.foldl_cons, find?_foldl_insert_of_forall_ne h,
    find?_insert, if_pos rfl]

theorem insert_perm {entries : List (String × α)} {name : String} (value : α)
    (h : name ∉ entries.map Prod.fst) : (insert name value entries).Perm ((name, value) :: entries) := by
  induction entries with
  | nil => exact List.Perm.refl _
  | cons e entries ih =>
    rw [List.map_cons, List.mem_cons, not_or] at h
    rw [insert, if_neg (Ne.symm h.1)]
    split
    · exact List.Perm.refl _
    · exact ((ih h.2).cons e).trans (List.Perm.swap _ _ _)

theorem ofList_perm {pairs : List (String × α)} (h : (pairs.map Prod.fst).Nodup) :
    (ofList pairs).Perm pairs := by
  suffices hf : ∀ before, (before.map Prod.fst ++ pairs.map Prod.fst).Nodup →
      (pairs.foldl (fun es p => insert p.1 p.2 es) before).Perm (before ++ pairs) from hf [] h
  clear h
  induction pairs with
  | nil => exact fun before _ => by rw [List.append_nil, List.foldl_nil]
  | cons p pairs ih =>
    intro before hn
    rw [List.map_cons] at hn
    have hp : p.1 ∉ before.map Prod.fst := fun hm =>
      (List.nodup_append.mp hn).2.2 p.1 hm p.1 List.mem_cons_self rfl
    have hi := insert_perm p.2 hp
    have hm : (insert p.1 p.2 before ++ pairs).Perm (before ++ p :: pairs) :=
      (hi.append_right pairs).trans List.perm_middle.symm
    refine (ih _ ?_).trans hm
    rw [← List.map_append, (hm.map Prod.fst).nodup_iff, List.map_append, List.map_cons]
    exact hn

theorem find?_eq_some_iff {entries : List (String × α)} (h : Ascending entries) {name : String}
    {value : α} : find? name entries = some value ↔ (name, value) ∈ entries := by
  induction entries with
  | nil => simp
  | cons e entries ih =>
    obtain ⟨hlt, ht⟩ := List.pairwise_cons.mp h
    obtain ⟨key, old⟩ := e
    rw [find?, List.mem_cons, Prod.mk.injEq]
    by_cases hk : key = name
    · subst hk
      have hn : (key, value) ∉ entries := fun hm => String.lt_irrefl key (hlt _ hm)
      simp [hn, eq_comm]
    · simp [hk, Ne.symm hk, ih ht]

theorem find?_ofList_eq_some_iff {pairs : List (String × α)} (h : (pairs.map Prod.fst).Nodup)
    {name : String} {value : α} :
    find? name (ofList pairs) = some value ↔ (name, value) ∈ pairs := by
  rw [find?_eq_some_iff (ascending_ofList pairs), (ofList_perm h).mem_iff]

theorem eq_of_find?_eq {entries entries' : List (String × α)} (h : Ascending entries)
    (h' : Ascending entries') (hf : ∀ name, find? name entries = find? name entries') :
    entries = entries' := by
  have hi : Std.Irrefl fun a b : String × α => a.1 < b.1 := ⟨fun a => String.lt_irrefl a.1⟩
  have ha : Std.Antisymm fun a b : String × α => a.1 < b.1 :=
    ⟨fun _ _ hab hba => absurd hba (String.lt_asymm hab)⟩
  refine List.Pairwise.eq_of_mem_iff h h' fun e => ?_
  rw [← find?_eq_some_iff h, ← find?_eq_some_iff h', hf]

theorem find?_filter (keep : String → Bool) (name : String) (entries : List (String × α)) :
    find? name (entries.filter fun e => keep e.1) =
      if keep name then find? name entries else none := by
  induction entries with
  | nil => simp
  | cons e entries ih =>
    by_cases hn : e.1 = name
    · subst hn
      by_cases hk : keep e.1 <;> simp [hk, find?, ih]
    · by_cases hk : keep e.1 <;> simp [hk, find?, ih, hn]

theorem find?_map {β : Type} (f : α → β) (name : String) (entries : List (String × α)) :
    find? name (entries.map fun e => (e.1, f e.2)) = (find? name entries).map f := by
  induction entries with
  | nil => rfl
  | cons e entries ih =>
    by_cases hn : e.1 = name <;> simp [find?, hn, ih]

/-! ## Names -/

theorem isSome_find?_iff {name : String} {entries : List (String × α)} :
    (find? name entries).isSome = true ↔ name ∈ entries.map Prod.fst := by
  induction entries with
  | nil => simp
  | cons e entries ih =>
    by_cases hn : e.1 = name
    · simp [find?, hn]
    · simp [find?, hn, ih, Ne.symm hn]

theorem mem_map_fst_insert {name other : String} {value : α} {entries : List (String × α)} :
    other ∈ (insert name value entries).map Prod.fst ↔
      other = name ∨ other ∈ entries.map Prod.fst := by
  rw [← isSome_find?_iff, ← isSome_find?_iff, find?_insert]
  by_cases hn : name = other
  · simp [hn]
  · simp [hn, Ne.symm hn]

theorem mem_map_fst_ofList {name : String} {pairs : List (String × α)} :
    name ∈ (ofList pairs).map Prod.fst ↔ name ∈ pairs.map Prod.fst := by
  suffices hf : ∀ before, name ∈ (pairs.foldl (fun es p => insert p.1 p.2 es) before).map Prod.fst ↔
      name ∈ before.map Prod.fst ∨ name ∈ pairs.map Prod.fst by
    exact (hf []).trans (by simp)
  induction pairs with
  | nil => simp
  | cons p pairs ih =>
    intro before
    rw [List.foldl_cons, ih, mem_map_fst_insert, List.map_cons, List.mem_cons, or_assoc,
      or_left_comm]

end AuditTrail.Entries

namespace AuditTrail.NameSet

theorem pairwise_names (s : NameSet) : s.names.Pairwise (· < ·) :=
  List.pairwise_map.mpr s.ascending

theorem contains_iff {s : NameSet} {name : String} : s.contains name = true ↔ name ∈ s.names :=
  Entries.isSome_find?_iff

theorem mem_names_ofNames {names : List String} {name : String} :
    name ∈ (ofNames names).names ↔ name ∈ names := by
  refine Entries.mem_map_fst_ofList.trans ?_
  simp

end AuditTrail.NameSet

namespace AuditTrail

theorem pairwise_distinctNames (names : List String) : (distinctNames names).Pairwise (· < ·) :=
  NameSet.pairwise_names _

theorem mem_distinctNames_iff {names : List String} {name : String} :
    name ∈ distinctNames names ↔ name ∈ names :=
  NameSet.mem_names_ofNames

/-- Ascending names are determined by which names they are. -/
theorem names_ext {names names' : List String} (h : names.Pairwise (· < ·))
    (h' : names'.Pairwise (· < ·)) (hm : ∀ name, name ∈ names ↔ name ∈ names') :
    names = names' := by
  have hi : Std.Irrefl fun a b : String => a < b := ⟨String.lt_irrefl⟩
  have ha : Std.Antisymm fun a b : String => a < b :=
    ⟨fun _ _ hab hba => absurd hba (String.lt_asymm hab)⟩
  exact List.Pairwise.eq_of_mem_iff h h' hm

theorem getLast?_filterMap_concat {α β : Type} (f : α → Option β) (as : List α) (a : α) :
    ((as ++ [a]).filterMap f).getLast? = (f a).or (as.filterMap f).getLast? := by
  rw [List.filterMap_append, List.getLast?_append]
  cases h : f a <;> simp [h]

end AuditTrail

namespace AuditTrail.Table

variable {α : Type}

/-- What is found under each name determines a table. -/
theorem ext_find? {t t' : Table α} (h : ∀ name, t.find? name = t'.find? name) : t = t' := by
  obtain ⟨entries, ha⟩ := t
  obtain ⟨entries', ha'⟩ := t'
  obtain rfl : entries = entries' := Entries.eq_of_find?_eq ha ha' h
  rfl

theorem ofList_entries (t : Table α) : Table.ofList t.entries = t := by
  obtain ⟨entries, h⟩ := t
  simp only [ofList, Entries.ofList_of_ascending h]

theorem find?_filter (t : Table α) (keep : String → Bool) (name : String) :
    (t.filter keep).find? name = if keep name then t.find? name else none :=
  Entries.find?_filter keep name t.entries

end AuditTrail.Table
