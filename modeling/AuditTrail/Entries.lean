/-! # Entries

Named values kept in strictly ascending order of their names. Two lists in that order
with the same content are the same list, and storing a value moves no other entry.
-/

namespace AuditTrail

/-- Strictly ascending names, so that no name occurs twice. -/
def Ascending {α : Type} (entries : List (String × α)) : Prop :=
  entries.Pairwise fun a b => a.1 < b.1

namespace Entries

variable {α : Type}

/-- The value stored under a name. -/
def find? (name : String) : List (String × α) → Option α
  | [] => none
  | (key, value) :: rest => if key = name then some value else find? name rest

/-- Stores a value in its place; an earlier value of the same name gives way. -/
def insert (name : String) (value : α) : List (String × α) → List (String × α)
  | [] => [(name, value)]
  | (key, old) :: rest =>
    if name < key then (name, value) :: (key, old) :: rest
    else if key = name then (name, value) :: rest
    else (key, old) :: insert name value rest

/-- Stores pairs one after the other, so the last of several with one name stays. -/
def ofList (pairs : List (String × α)) : List (String × α) :=
  pairs.foldl (fun entries pair => insert pair.1 pair.2 entries) []

theorem lt_of_not_lt {a b : String} (h : ¬ a < b) (hne : b ≠ a) : b < a :=
  Decidable.byContradiction fun hn =>
    hne (String.le_antisymm (String.not_lt.1 h) (String.not_lt.1 hn))

@[simp] theorem find?_nil (name : String) : find? name ([] : List (String × α)) = none := rfl

theorem find?_insert (name other : String) (value : α) (entries : List (String × α)) :
    find? other (insert name value entries) =
      if name = other then some value else find? other entries := by
  induction entries with
  | nil => simp [insert, find?]
  | cons entry rest ih =>
    obtain ⟨key, old⟩ := entry
    rw [insert]
    split
    · rfl
    · split
      · next hk =>
        subst hk
        by_cases h : key = other <;> simp [find?, h]
      · next hk =>
        by_cases h : key = other
        · subst h
          simp [find?, Ne.symm hk]
        · simp [find?, h, ih]

theorem mem_insert {name : String} {value : α} {entries : List (String × α)}
    {entry : String × α} (h : entry ∈ insert name value entries) :
    entry = (name, value) ∨ entry ∈ entries := by
  induction entries with
  | nil => exact Or.inl (List.mem_singleton.1 h)
  | cons head rest ih =>
    obtain ⟨key, old⟩ := head
    rw [insert] at h
    split at h
    · simpa using h
    · split at h
      · rcases List.mem_cons.1 h with h | h
        · exact Or.inl h
        · exact Or.inr (List.mem_cons_of_mem _ h)
      · rcases List.mem_cons.1 h with h | h
        · exact Or.inr (h ▸ List.mem_cons_self)
        · exact (ih h).imp_right (List.mem_cons_of_mem _)

theorem ascending_insert (name : String) (value : α) {entries : List (String × α)}
    (h : Ascending entries) : Ascending (insert name value entries) := by
  induction entries with
  | nil => exact List.pairwise_singleton _ _
  | cons entry rest ih =>
    obtain ⟨key, old⟩ := entry
    obtain ⟨hhead, htail⟩ := List.pairwise_cons.1 h
    rw [insert]
    split
    · next hlt =>
      refine List.pairwise_cons.2 ⟨fun e he => ?_, h⟩
      rcases List.mem_cons.1 he with rfl | he
      · exact hlt
      · exact String.lt_trans hlt (hhead e he)
    · next hlt =>
      split
      · next hk =>
        subst hk
        exact List.pairwise_cons.2 ⟨hhead, htail⟩
      · next hk =>
        refine List.pairwise_cons.2 ⟨fun e he => ?_, ih htail⟩
        rcases mem_insert he with rfl | he
        · exact lt_of_not_lt hlt hk
        · exact hhead e he

theorem ascending_foldl_insert (pairs : List (String × α)) {entries : List (String × α)}
    (h : Ascending entries) :
    Ascending (pairs.foldl (fun entries pair => insert pair.1 pair.2 entries) entries) := by
  induction pairs generalizing entries with
  | nil => exact h
  | cons pair rest ih => exact ih (ascending_insert _ _ h)

theorem ascending_ofList (pairs : List (String × α)) : Ascending (ofList pairs) :=
  ascending_foldl_insert pairs List.Pairwise.nil

end Entries

/-- A finite map from names to values, in ascending order of the names. -/
structure Table (α : Type) where
  entries : List (String × α) := []
  ascending : Ascending entries := by exact List.Pairwise.nil

namespace Table

variable {α β : Type}

instance : Inhabited (Table α) := ⟨{}⟩

instance [DecidableEq α] : DecidableEq (Table α) := fun s t =>
  decidable_of_iff (s.entries = t.entries) (by cases s; cases t; simp)

def empty : Table α := {}

def isEmpty (t : Table α) : Bool := t.entries.isEmpty

def find? (t : Table α) (name : String) : Option α := Entries.find? name t.entries

def insert (t : Table α) (name : String) (value : α) : Table α where
  entries := Entries.insert name value t.entries
  ascending := Entries.ascending_insert name value t.ascending

def ofList (pairs : List (String × α)) : Table α where
  entries := Entries.ofList pairs
  ascending := Entries.ascending_ofList pairs

/-- Keeps the entries whose name passes. -/
def filter (t : Table α) (keep : String → Bool) : Table α where
  entries := t.entries.filter fun entry => keep entry.1
  ascending := t.ascending.filter _

def keys (t : Table α) : List String := t.entries.map (·.1)

theorem find?_insert (t : Table α) (name other : String) (value : α) :
    (t.insert name value).find? other = if name = other then some value else t.find? other :=
  Entries.find?_insert name other value t.entries

end Table

/-- A finite set of names. -/
abbrev NameSet := Table Unit

namespace NameSet

def ofNames (names : List String) : NameSet := Table.ofList (names.map (·, ()))

def names (s : NameSet) : List String := Table.keys s

def contains (s : NameSet) (name : String) : Bool := (Table.find? s name).isSome

end NameSet

/-- The distinct names of a list, in strictly ascending order. -/
def distinctNames (names : List String) : List String := (NameSet.ofNames names).names

end AuditTrail
