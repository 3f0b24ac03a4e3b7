import AuditTrail.Proofs.Json.Grammar
import AuditTrail.Proofs.Entries

/-! # Documents that are read into values

A document is read into a value if it nests no deeper than the reader lets it, all its numbers
stand for one and all its strings have a text. In an object the last member of a name counts.
-/

namespace AuditTrail.Json

/-- Whether a token that is a number or a string stands for something. -/
def Token.hasMeaning : Token → Bool
  | .number n => n.number?.isSome
  | .string text => text.isSome
  | _ => true

namespace Tree

mutual

/-- How deep the containers of a document nest. -/
def depth : Tree → Nat
  | .null | .bool _ | .number _ | .string _ => 0
  | .array items => itemsDepth items + 1
  | .object members => membersDepth members + 1

def itemsDepth : List Tree → Nat
  | [] => 0
  | t :: ts => max (depth t) (itemsDepth ts)

def membersDepth : List (Option String × Tree) → Nat
  | [] => 0
  | (_, t) :: ms => max (depth t) (membersDepth ms)

end

/-- Whether a document is within the limits of the reader. -/
structure IsReadable (n : Nat) (t : Tree) : Prop where
  depth_le : t.depth ≤ n
  hasMeaning : ∀ u ∈ t.tokens, u.hasMeaning = true

/-! ## Limits -/

theorem forall_tokens_array (ts : List Tree) :
    (∀ u ∈ (array ts).tokens, u.hasMeaning = true) ↔
      ∀ u ∈ itemTokens ts, u.hasMeaning = true := by
  cases ts <;> simp [tokens, itemTokens, Token.hasMeaning]

theorem forall_tokens_object (ms : List (Option String × Tree)) :
    (∀ u ∈ (object ms).tokens, u.hasMeaning = true) ↔
      ∀ u ∈ memberTokens ms, u.hasMeaning = true := by
  cases ms <;> simp [tokens, memberTokens, Token.hasMeaning]

mutual

/-- A document has a value if and only if it is within the limits. -/
theorem isSome_value?_iff : ∀ (t : Tree) (n : Nat), (t.value? n).isSome = true ↔
    t.depth ≤ n ∧ ∀ u ∈ t.tokens, u.hasMeaning = true
  | .null, n | .bool _, n | .number _, n | .string _, n => by
    simp [value?, depth, tokens, Token.hasMeaning]
  | .array _, 0 | .object _, 0 => by simp [value?, depth]
  | .array ts, n + 1 => by
    rw [forall_tokens_array, value?, Option.isSome_map, isSome_items?_iff ts n, depth,
      Nat.add_le_add_iff_right]
  | .object ms, n + 1 => by
    rw [forall_tokens_object, value?, Option.isSome_map, isSome_members?_iff ms [] n, depth,
      Nat.add_le_add_iff_right]

theorem isSome_items?_iff : ∀ (ts : List Tree) (n : Nat), (items? n ts).isSome = true ↔
    itemsDepth ts ≤ n ∧ ∀ u ∈ itemTokens ts, u.hasMeaning = true
  | [], n => by simp [items?, itemsDepth, itemTokens, Token.hasMeaning]
  | t :: ts, n => by
    have hi : (items? n (t :: ts)).isSome = true ↔
        (t.value? n).isSome = true ∧ (items? n ts).isSome = true := by
      rw [items?]
      cases t.value? n <;> cases items? n ts <;> simp
    rw [hi, isSome_value?_iff t n, isSome_items?_iff ts n, itemsDepth, Nat.max_le, itemTokens,
      List.forall_mem_cons, List.forall_mem_append]
    simp only [Token.hasMeaning, true_and]
    exact and_and_and_comm

theorem isSome_members?_iff : ∀ (ms : List (Option String × Tree))
    (stored : List (String × Value)) (n : Nat), (members? n ms stored).isSome = true ↔
    membersDepth ms ≤ n ∧ ∀ u ∈ memberTokens ms, u.hasMeaning = true
  | [], stored, n => by simp [members?, membersDepth, memberTokens, Token.hasMeaning]
  | (name, t) :: ms, stored, n => by
    have hi : (members? n ((name, t) :: ms) stored).isSome = true ↔
        name.isSome = true ∧ (t.value? n).isSome = true ∧
          membersDepth ms ≤ n ∧ ∀ u ∈ memberTokens ms, u.hasMeaning = true := by
      rw [members?]
      cases name with
      | none => simp
      | some name =>
        cases t.value? n with
        | none => simp
        | some v => simpa using isSome_members?_iff ms (Entries.insert name v stored) n
    rw [hi, isSome_value?_iff t n, membersDepth, Nat.max_le, memberTokens]
    simp only [List.forall_mem_cons, List.forall_mem_append, Token.hasMeaning, true_and]
    tauto

end

theorem isReadable_iff {t : Tree} {n : Nat} : t.IsReadable n ↔ (t.value? n).isSome = true := by
  rw [isSome_value?_iff]
  exact ⟨fun h => ⟨h.depth_le, h.hasMeaning⟩, fun ⟨hd, hm⟩ => ⟨hd, hm⟩⟩

theorem eq_string_of_value? {t : Tree} {n : Nat} {s : String} (h : t.value? n = some (.string s)) :
    t = .string (some s) := by
  cases t with
  | string text =>
    rw [value?, Option.map_eq_some_iff] at h
    obtain ⟨_, rfl, he⟩ := h
    cases he
    rfl
  | array items | object members => cases n <;> simp [value?] at h
  | _ => simp [value?] at h

theorem exists_object_of_value? {t : Tree} {n : Nat} {vs : List (String × Value)}
    (h : t.value? n = some (.object vs)) : ∃ ms, t = .object ms := by
  cases t with
  | object ms => exact ⟨ms, rfl⟩
  | array items => cases n <;> simp [value?] at h
  | _ => simp [value?] at h

/-! ## Members -/

/-- The last member of a name, in the order in which members are written. -/
def LastMember (ms : List (Option String × Tree)) (name : String) (t : Tree) : Prop :=
  ∃ before after, ms = before ++ (some name, t) :: after ∧ ∀ m ∈ after, m.1 ≠ some name

theorem find?_members?_of_forall_ne {ms : List (Option String × Tree)} {name : String} {n : Nat}
    {stored vs : List (String × Value)} (h : members? n ms stored = some vs)
    (hn : ∀ m ∈ ms, m.1 ≠ some name) : Entries.find? name vs = Entries.find? name stored := by
  induction ms generalizing stored with
  | nil =>
    cases h
    rfl
  | cons m ms ih =>
    rw [List.forall_mem_cons] at hn
    obtain ⟨key, t⟩ := m
    simp only [members?, Option.bind_eq_bind, Option.bind_eq_some_iff] at h
    obtain ⟨key, rfl, v, -, h⟩ := h
    rw [ih h hn.2, Entries.find?_insert, if_neg fun he => hn.1 (congrArg some he)]

/-- Under the name of a member the value of the last one is found. -/
theorem find?_members?_of_lastMember {ms : List (Option String × Tree)} {name : String} {t : Tree}
    {n : Nat} {stored vs : List (String × Value)} (h : members? n ms stored = some vs)
    (hl : LastMember ms name t) : Entries.find? name vs = t.value? n := by
  obtain ⟨before, after, rfl, ha⟩ := hl
  induction before generalizing stored with
  | nil =>
    simp only [List.nil_append, members?, Option.bind_eq_bind, Option.bind_eq_some_iff] at h
    obtain ⟨key, he, v, hv, h⟩ := h
    cases he
    rw [find?_members?_of_forall_ne h ha, Entries.find?_insert, if_pos rfl, hv]
  | cons m before ih =>
    simp only [List.cons_append, members?, Option.bind_eq_bind, Option.bind_eq_some_iff] at h
    obtain ⟨key, -, v, -, h⟩ := h
    exact ih h

theorem forall_ne_or_exists_lastMember (ms : List (Option String × Tree)) (name : String) :
    (∀ m ∈ ms, m.1 ≠ some name) ∨ ∃ t, LastMember ms name t := by
  induction ms with
  | nil => exact .inl nofun
  | cons m ms ih =>
    rcases ih with hn | ⟨t, before, after, rfl, ha⟩
    · by_cases hm : m.1 = some name
      · exact .inr ⟨m.2, [], ms, by rw [← hm]; rfl, hn⟩
      · exact .inl (List.forall_mem_cons.mpr ⟨hm, hn⟩)
    · exact .inr ⟨t, m :: before, after, rfl, ha⟩

end Tree

end AuditTrail.Json
