import AuditTrail.Proofs.Json.Limits
import AuditTrail.Proofs.Json.Reading
import AuditTrail.Proofs.Json.RoundTrip

/-! # Documents of integers

A document whose numerals are integers of 64 bits has a value without doubles. The compact text of
such a value is read as this value, unless it nests deeper than the reader lets it.
-/

namespace AuditTrail.Json

/-! ## Numerals -/

/-- An integer without fraction and exponent that fits 64 bits, signed or unsigned, and that is
no negative zero. -/
structure Numeral.IsWord (n : Numeral) : Prop where
  fraction : n.fraction = []
  exponent : n.exponent = none
  lt : Decimal.ofDigits n.whole < Nat.pow 2 64
  negative : n.negative = true →
    0 < Decimal.ofDigits n.whole ∧ Decimal.ofDigits n.whole ≤ Nat.pow 2 63

/-- The integer that its digits and its sign name. -/
def Numeral.signed (n : Numeral) : Int :=
  if n.negative then -Decimal.ofDigits n.whole else Decimal.ofDigits n.whole

theorem Numeral.IsWord.number? {n : Numeral} (h : n.IsWord) :
    n.number? = some (.int n.signed) := by
  have hc := Decimal.collect_eq n.whole ⟨0, 0⟩ h.lt
  have hi : n.isInteger = true := by
    rw [isInteger, h.fraction, h.exponent]
    rfl
  have hn : (!n.negative || (0 < Decimal.ofDigits n.whole &&
      Decimal.ofDigits n.whole ≤ Nat.pow 2 63)) = true := by
    cases hneg : n.negative with
    | false => rfl
    | true => simpa using h.negative hneg
  rw [Numeral.number?, hc, hi]
  simp only [Nat.zero_add, beq_self_eq_true, Bool.true_and]
  exact if_pos hn

namespace Tree

/-- All numerals of a document are integers of 64 bits. -/
def HasWords (t : Tree) : Prop := ∀ n, Token.number n ∈ t.tokens → n.IsWord

/-! ## Numbers of values -/

theorem number_mem_array {n : Numeral} {ts : List Tree} :
    .number n ∈ (array ts).tokens ↔ .number n ∈ itemTokens ts := by
  cases ts <;> simp [tokens, itemTokens]

theorem number_mem_object {n : Numeral} {ms : List (Option String × Tree)} :
    .number n ∈ (object ms).tokens ↔ .number n ∈ memberTokens ms := by
  cases ms <;> simp [tokens, memberTokens]

theorem number_mem_itemTokens_cons {n : Numeral} {t : Tree} {ts : List Tree} :
    .number n ∈ itemTokens (t :: ts) ↔ .number n ∈ t.tokens ∨ .number n ∈ itemTokens ts := by
  simp [itemTokens]

theorem number_mem_memberTokens_cons {n : Numeral} {name : Option String} {t : Tree}
    {ms : List (Option String × Tree)} :
    .number n ∈ memberTokens ((name, t) :: ms) ↔
      .number n ∈ t.tokens ∨ .number n ∈ memberTokens ms := by
  simp [memberTokens]

variable {P : Number → Prop}

mutual

theorem allNumbers_of_value? : ∀ {t : Tree} {n : Nat} {v : Value}, t.value? n = some v →
    (∀ m, .number m ∈ t.tokens → ∀ k, m.number? = some k → P k) → v.AllNumbers P
  | .null, n, v, h, _ | .bool b, n, v, h, _ => by
    cases h
    trivial
  | .number m, n, v, h, hp => by
    rw [value?] at h
    obtain ⟨k, hk, rfl⟩ := Option.map_eq_some_iff.mp h
    exact hp m (List.mem_singleton.mpr rfl) k hk
  | .string text, n, v, h, _ => by
    rw [value?] at h
    obtain ⟨s, -, rfl⟩ := Option.map_eq_some_iff.mp h
    trivial
  | .array ts, 0, v, h, _ | .object ms, 0, v, h, _ => by cases h
  | .array ts, n + 1, v, h, hp => by
    rw [value?] at h
    obtain ⟨vs, hvs, rfl⟩ := Option.map_eq_some_iff.mp h
    exact Value.allItems_of_forall
      (allNumbers_of_items? hvs fun m hm => hp m (number_mem_array.mpr hm))
  | .object ms, n + 1, v, h, hp => by
    rw [value?] at h
    obtain ⟨vs, hvs, rfl⟩ := Option.map_eq_some_iff.mp h
    exact Value.allMembers_of_forall
      (allNumbers_of_members? hvs (fun m hm => hp m (number_mem_object.mpr hm)) nofun)

theorem allNumbers_of_items? : ∀ {ts : List Tree} {n : Nat} {vs : List Value},
    items? n ts = some vs →
    (∀ m, .number m ∈ itemTokens ts → ∀ k, m.number? = some k → P k) →
    ∀ v ∈ vs, v.AllNumbers P
  | [], n, vs, h, _ => by
    cases h
    exact nofun
  | t :: ts, n, vs, h, hp => by
    simp only [items?, Option.bind_eq_bind, Option.bind_eq_some_iff, Option.some.injEq] at h
    obtain ⟨v, hv, ws, hws, rfl⟩ := h
    rw [List.forall_mem_cons]
    constructor
    · exact allNumbers_of_value? hv fun m hm =>
        hp m (number_mem_itemTokens_cons.mpr (.inl hm))
    · exact allNumbers_of_items? hws fun m hm =>
        hp m (number_mem_itemTokens_cons.mpr (.inr hm))

theorem allNumbers_of_members? : ∀ {ms : List (Option String × Tree)} {n : Nat}
    {stored vs : List (String × Value)}, members? n ms stored = some vs →
    (∀ m, .number m ∈ memberTokens ms → ∀ k, m.number? = some k → P k) →
    (∀ e ∈ stored, e.2.AllNumbers P) → ∀ e ∈ vs, e.2.AllNumbers P
  | [], n, stored, vs, h, _, hs => by
    cases h
    exact hs
  | (name, t) :: ms, n, stored, vs, h, hp, hs => by
    simp only [members?, Option.bind_eq_bind, Option.bind_eq_some_iff] at h
    obtain ⟨key, -, v, hv, h⟩ := h
    refine allNumbers_of_members? h
      (fun m hm => hp m (number_mem_memberTokens_cons.mpr (.inr hm))) fun e he => ?_
    rcases Entries.mem_insert he with rfl | he
    · exact allNumbers_of_value? hv fun m hm =>
        hp m (number_mem_memberTokens_cons.mpr (.inl hm))
    · exact hs e he

end

theorem HasWords.isIntegral {t : Tree} (h : t.HasWords) {n : Nat} {v : Value}
    (hv : t.value? n = some v) : v.IsIntegral := by
  refine Value.isIntegral_of (allNumbers_of_value? hv fun m hm k hk => ?_)
    (Value.isRead_of_value? hv).fits
  rw [(h m hm).number?] at hk
  cases hk
  trivial

end Tree

namespace Value

/-! ## Compact text -/

mutual

theorem depth_tree : ∀ v : Value, v.tree.depth = v.depth
  | .null | .bool _ | .number _ | .string _ => by simp [tree, Tree.depth, depth]
  | .array vs => by rw [tree, Tree.depth, depth, itemsDepth_itemTrees vs]
  | .object ms => by rw [tree, Tree.depth, depth, membersDepth_memberTrees ms]

theorem itemsDepth_itemTrees : ∀ vs : List Value, Tree.itemsDepth (itemTrees vs) = itemsDepth vs
  | [] => rfl
  | v :: vs => by
    rw [itemTrees, Tree.itemsDepth, itemsDepth, depth_tree v, itemsDepth_itemTrees vs]

theorem membersDepth_memberTrees :
    ∀ ms : List (String × Value), Tree.membersDepth (memberTrees ms) = membersDepth ms
  | [] => rfl
  | (k, v) :: ms => by
    rw [memberTrees, Tree.membersDepth, membersDepth, depth_tree v, membersDepth_memberTrees ms]

end

/-- What was read is read again from its compact text. -/
theorem ofText?_compact_of_isRead {v : Value} (h : v.IsRead depthLimit) (hi : v.IsIntegral) :
    ofText? v.compact = some v := by
  rw [ofText?_compact hi h.depth_le, normal_of_ordered h.ordered]

/-- What nests too deep is not read from its compact text. -/
theorem ofText?_compact_eq_none {v : Value} (hi : v.IsIntegral) (hd : depthLimit < v.depth) :
    ofText? v.compact = none := by
  rw [ofText?, ofChars?, treeOfText?_compact hi, Option.bind_some, ← Option.not_isSome_iff_eq_none,
    Tree.isSome_value?_iff, depth_tree]
  exact fun h => absurd h.1 (Nat.not_le.mpr hd)

end Value

end AuditTrail.Json
