import AuditTrail.Proofs.Source

/-! # Payloads combined into one

Parts are combined into an object that has the last part of each name as its value, or as text if
it holds no document. What is written for this object always is a document of it. The reader takes
it as long as no part nests as deep as the reader lets a document nest, for the object is one
container more.
-/

namespace AuditTrail.Source

open Json Text

/-- Named parts, each with its octets if it is present. -/
abbrev Parts := List (String × Option (List UInt8))

/-- The last part of a name that is present. -/
def LastPart (parts : Parts) (name : String) (octets : List UInt8) : Prop :=
  ∃ before after, parts = before ++ (name, some octets) :: after ∧
    ∀ p ∈ after, p.1 = name → p.2 = none

/-- The members of the object for some parts: each name of a part, with what its last part says. -/
structure Combines (parts : Parts) (members : List (String × Value)) : Prop where
  ascending : Ascending members
  names : ∀ name, name ∈ members.map Prod.fst ↔ ∃ octets, (name, some octets) ∈ parts
  document : ∀ name octets t v, LastPart parts name octets → Holds octets t →
    t.value? Value.depthLimit = some v → Entries.find? name members = some v
  other : ∀ name octets, LastPart parts name octets →
    (∀ t, Holds octets t → ¬ t.IsReadable Value.depthLimit) →
    Entries.find? name members = some (.string (text octets))

/-! ## The parts that are present -/

/-- The present parts with their values. -/
def present (parts : Parts) : List (String × Value) :=
  parts.filterMap fun p => p.2.map fun octets => (p.1, part octets)

theorem combine_eq (parts : Parts) :
    combine parts = if (present parts).isEmpty then none
      else some (Value.object (Entries.ofList (present parts))).compact := rfl

theorem mem_present {parts : Parts} {m : String × Value} :
    m ∈ present parts ↔ ∃ octets, (m.1, some octets) ∈ parts ∧ m.2 = part octets := by
  rw [present, List.mem_filterMap]
  constructor
  · rintro ⟨⟨name, octets⟩, hp, hm⟩
    obtain ⟨octets, rfl, rfl⟩ := Option.map_eq_some_iff.mp hm
    exact ⟨octets, hp, rfl⟩
  · rintro ⟨octets, hp, hm⟩
    exact ⟨_, hp, by rw [Option.map_some, ← hm]⟩

theorem present_eq_nil_iff {parts : Parts} : present parts = [] ↔ ∀ p ∈ parts, p.2 = none := by
  rw [present, List.filterMap_eq_nil_iff]
  simp only [Option.map_eq_none_iff]

theorem combine_eq_none_iff {parts : Parts} :
    combine parts = none ↔ ∀ p ∈ parts, p.2 = none := by
  rw [combine_eq, ← present_eq_nil_iff, ← List.isEmpty_iff]
  split <;> simp_all

theorem exists_lastPart {parts : Parts} {name : String}
    (h : ∃ octets, (name, some octets) ∈ parts) : ∃ octets, LastPart parts name octets := by
  induction parts with
  | nil =>
    obtain ⟨octets, h⟩ := h
    cases h
  | cons p parts ih =>
    by_cases hl : ∃ octets, (name, some octets) ∈ parts
    · obtain ⟨octets, before, after, rfl, ha⟩ := ih hl
      exact ⟨octets, p :: before, after, rfl, ha⟩
    · obtain ⟨octets, h⟩ := h
      obtain rfl := (List.mem_cons.mp h).resolve_right fun hm => hl ⟨octets, hm⟩
      refine ⟨octets, [], parts, rfl, ?_⟩
      rintro ⟨_, _ | later⟩ hq rfl
      · rfl
      · exact absurd ⟨later, hq⟩ hl

theorem find?_ofList_present {parts : Parts} {name : String} {octets : List UInt8}
    (h : LastPart parts name octets) :
    Entries.find? name (Entries.ofList (present parts)) = some (part octets) := by
  obtain ⟨before, after, rfl, ha⟩ := h
  have hp : present (before ++ (name, some octets) :: after) =
      present before ++ (name, part octets) :: present after := by
    simp [present]
  rw [hp]
  refine Entries.find?_ofList_append fun m hm hn => ?_
  obtain ⟨octets', hm, -⟩ := mem_present.mp hm
  cases ha _ hm hn

theorem forall_mem_members_iff {parts : Parts} {P : Value → Prop} :
    (∀ m ∈ Entries.ofList (present parts), P m.2) ↔
      ∀ name octets, LastPart parts name octets → P (part octets) := by
  have ha := Entries.ascending_ofList (present parts)
  constructor
  · intro h name octets hl
    exact h _ ((Entries.find?_eq_some_iff ha).mp (find?_ofList_present hl))
  · rintro h ⟨name, v⟩ hm
    obtain ⟨octets, hp, -⟩ := mem_present.mp (Entries.mem_of_mem_ofList hm)
    obtain ⟨octets, hl⟩ := exists_lastPart ⟨octets, hp⟩
    have hv := (Entries.find?_eq_some_iff ha).mpr hm
    rw [find?_ofList_present hl] at hv
    cases hv
    exact h name octets hl

/-! ## Parts as values -/

theorem part_of_value? {octets : List UInt8} {v : Value} (h : value? octets = some v) :
    part octets = v := by
  rw [part, h, Option.getD_some]

theorem part_of_value?_eq_none {octets : List UInt8} (h : value? octets = none) :
    part octets = .string (text octets) := by
  rw [part, h, Option.getD_none]

theorem isRead_part (octets : List UInt8) : (part octets).IsRead Value.depthLimit := by
  cases h : value? octets with
  | none =>
    rw [part_of_value?_eq_none h]
    exact ⟨.string _, Nat.zero_le _, trivial⟩
  | some v =>
    rw [part_of_value? h]
    exact isRead_of_value? h

theorem combines_ofList_present (parts : Parts) :
    Combines parts (Entries.ofList (present parts)) where
  ascending := Entries.ascending_ofList _
  names name := by
    rw [Entries.mem_map_fst_ofList, List.mem_map]
    constructor
    · rintro ⟨m, hm, rfl⟩
      obtain ⟨octets, hp, -⟩ := mem_present.mp hm
      exact ⟨octets, hp⟩
    · rintro ⟨octets, hp⟩
      exact ⟨(name, part octets), mem_present.mpr ⟨octets, hp, rfl⟩, rfl⟩
  document name octets t v hl ht hv := by
    rw [find?_ofList_present hl, part_of_value? ((value?_of_holds ht).trans hv)]
  other name octets hl hn := by
    rw [find?_ofList_present hl, part_of_value?_eq_none (value?_eq_none_iff.mpr hn)]

/-! ## The object as written -/

/-- Every present part that holds a document holds one of integers. -/
def AllIntegers (parts : Parts) : Prop :=
  ∀ name octets, (name, some octets) ∈ parts → ∀ t, Holds octets t →
    t.IsReadable Value.depthLimit → t.HasWords

/-- No part that counts nests as deep as a document may nest. -/
def LeavesRoom (parts : Parts) : Prop :=
  ∀ name octets v, LastPart parts name octets → value? octets = some v → v.depth < Value.depthLimit

theorem AllIntegers.isIntegral_part {parts : Parts} (h : AllIntegers parts) {name : String}
    {octets : List UInt8} (hp : (name, some octets) ∈ parts) : (part octets).IsIntegral := by
  cases hv : value? octets with
  | none =>
    rw [part_of_value?_eq_none hv]
    trivial
  | some v =>
    obtain ⟨t, ht, htv⟩ := exists_holds_of_value? hv
    rw [part_of_value? hv]
    exact (h name octets hp t ht (Tree.isReadable_iff.mpr (by rw [htv]; rfl))).isIntegral htv

theorem AllIntegers.isIntegral_object {parts : Parts} (h : AllIntegers parts) :
    (Value.object (Entries.ofList (present parts))).IsIntegral := by
  refine Value.membersIntegral_iff.mpr fun m hm => ?_
  obtain ⟨octets, hp, he⟩ := mem_present.mp (Entries.mem_of_mem_ofList hm)
  rw [he]
  exact h.isIntegral_part hp

theorem isRead_object (parts : Parts) :
    (Value.object (Entries.ofList (present parts))).IsRead (Value.depthLimit + 1) :=
  .object (Entries.ascending_ofList _) fun m hm => by
    obtain ⟨octets, -, he⟩ := mem_present.mp (Entries.mem_of_mem_ofList hm)
    rw [he]
    exact isRead_part octets

theorem depth_object_le_iff {parts : Parts} :
    (Value.object (Entries.ofList (present parts))).depth ≤ Value.depthLimit ↔
      LeavesRoom parts := by
  have hd : (Value.object (Entries.ofList (present parts))).depth ≤ Value.depthLimit ↔
      ∀ m ∈ Entries.ofList (present parts), m.2.depth < Value.depthLimit := by
    rw [Value.depth, ← Nat.lt_iff_add_one_le, ← Nat.le_sub_one_iff_lt (by decide),
      Value.membersDepth_le_iff]
    simp only [Nat.le_sub_one_iff_lt (show 0 < Value.depthLimit by decide)]
  rw [hd, forall_mem_members_iff (P := fun v => v.depth < Value.depthLimit)]
  constructor
  · intro h name octets v hl hv
    rw [← part_of_value? hv]
    exact h name octets hl
  · intro h name octets hl
    cases hv : value? octets with
    | none =>
      rw [part_of_value?_eq_none hv]
      exact Nat.succ_pos _
    | some v =>
      rw [part_of_value? hv]
      exact h name octets v hl hv

/-- Parts are combined into nothing if none is present. Otherwise a document of the object that
the parts make up is written; it is read as this object if the parts leave room for it, and is not
read at all if they do not. As a payload it is shown without a change. -/
theorem combine_holds_parts {parts : Parts} (h : AllIntegers parts) :
    (combine parts = none ↔ ∀ p ∈ parts, p.2 = none) ∧
    ∀ s, combine parts = some s → ∃ members, Combines parts members ∧
      (Tree.ofText? s.toList).bind (Tree.value? (Value.depthLimit + 1)) = some (.object members) ∧
      (LeavesRoom parts → Value.ofText? s = some (.object members)) ∧
      (¬ LeavesRoom parts → Value.ofText? s = none) ∧
      text (Utf8.encode s) = s := by
  refine ⟨combine_eq_none_iff, fun s hs => ?_⟩
  rw [combine_eq] at hs
  split at hs
  · cases hs
  obtain rfl := Option.some.inj hs
  have hi := h.isIntegral_object
  have hr := isRead_object parts
  have hread : LeavesRoom parts →
      Value.ofText? (Value.object (Entries.ofList (present parts))).compact =
        some (.object (Entries.ofList (present parts))) := by
    intro hd
    rw [Value.ofText?_compact hi (depth_object_le_iff.mpr hd), Value.normal_of_ordered hr.ordered]
  have hnone : ¬ LeavesRoom parts →
      Value.ofText? (Value.object (Entries.ofList (present parts))).compact = none := by
    intro hd
    exact Value.ofText?_compact_eq_none hi (Nat.not_le.mp fun hl => hd (depth_object_le_iff.mp hl))
  refine ⟨_, combines_ofList_present parts, ?_, hread, hnone, ?_⟩
  · rw [Value.treeOfText?_compact hi, Option.bind_some, Value.value?_tree _ hi hr.depth_le,
      Value.normal_of_ordered hr.ordered]
  · rw [text_encode]
    by_cases hd : LeavesRoom parts
    · rw [hread hd, Option.elim_some]
    · rw [hnone hd, Option.elim_none]

/-- A part that another one shadows, a missing one, and one that is no text. -/
theorem combine_holds_parts_mixed :
    let list := "[2, \"\\u0041\"]"
    let parts : Parts := [("a", some (Utf8.encode "1")), ("b", none),
      ("a", some (Utf8.encode list)), ("c", some [0xFF])]
    AllIntegers parts ∧ LeavesRoom parts ∧
      ∃ s members, combine parts = some s ∧ Value.ofText? s = some (.object members) ∧
        Entries.find? "a" members = some (.array [.number (.int 2), .string "A"]) ∧
        Entries.find? "c" members = some (.string
          "unable to decode request body: invalid utf-8 sequence of 1 bytes from index 0") := by
  intro list parts
  let t : Tree := .array [.number { whole := [2] }, .string (some "A")]
  let v : Value := .array [.number (.int 2), .string "A"]
  have hone : Tree.ofText? "1".toList = some (.number { whole := [1] }) := by
    simp only [String.reduceToList]
    rfl
  have hlist : Tree.ofText? list.toList = some t := by
    simp only [list, String.reduceToList]
    rfl
  have hnt : ∀ t, ¬ Holds [0xFF] t := by
    rintro t ⟨s, hs, -⟩
    have hd := Utf8.decode_encode s
    rw [← hs] at hd
    cases hd
  have hw : ∀ n : Numeral, n = { whole := [1] } ∨ n = { whole := [2] } → n.IsWord := by
    rintro n (rfl | rfl) <;> exact ⟨rfl, rfl, by decide, by decide⟩
  have hi : AllIntegers parts := by
    intro name octets hm u hu _ n hn
    simp only [parts, List.mem_cons, List.not_mem_nil, or_false, Prod.mk.injEq, Option.some.injEq,
      reduceCtorEq, and_false, false_or] at hm
    rcases hm with ⟨rfl, rfl⟩ | ⟨rfl, rfl⟩ | ⟨rfl, rfl⟩
    · rw [holds_encode_iff, hone] at hu
      cases hu
      exact hw n (.inl (by simpa [Tree.tokens] using hn))
    · rw [holds_encode_iff, hlist] at hu
      cases hu
      exact hw n (.inr (by simpa [t, Tree.tokens, Tree.itemTokens] using hn))
    · exact absurd hu (hnt u)
  have hvone : value? (Utf8.encode "1") = some (.number (.int 1)) := by
    rw [value?_of_holds (holds_encode_iff.mpr hone)]
    rfl
  have hvlist : value? (Utf8.encode list) = some v := by
    rw [value?_of_holds (holds_encode_iff.mpr hlist)]
    rfl
  have hr : LeavesRoom parts := by
    rintro name octets w ⟨before, after, hp, -⟩ hv
    have hm : (name, some octets) ∈ parts := by simp [hp]
    simp only [parts, List.mem_cons, List.not_mem_nil, or_false, Prod.mk.injEq, Option.some.injEq,
      reduceCtorEq, and_false, false_or] at hm
    rcases hm with ⟨rfl, rfl⟩ | ⟨rfl, rfl⟩ | ⟨rfl, rfl⟩
    · rw [hvone] at hv
      cases hv
      decide
    · rw [hvlist] at hv
      cases hv
      decide
    · cases hv
  obtain ⟨s, hs⟩ : ∃ s, combine parts = some s := ⟨_, rfl⟩
  obtain ⟨members, hc, -, hread, -, -⟩ := (combine_holds_parts hi).2 s hs
  refine ⟨hi, hr, s, members, hs, hread hr, ?_, ?_⟩
  · exact hc.document "a" _ t v ⟨parts.take 2, [("c", some [0xFF])], rfl, by simp⟩
      (holds_encode_iff.mpr hlist) rfl
  · exact hc.other "c" [0xFF] ⟨parts.take 3, [], rfl, List.forall_mem_nil _⟩ fun t ht _ => hnt t ht

/-! ## Parts that leave no room -/

/-- Arrays one in the other. -/
def nested : Nat → Value
  | 0 => .array []
  | n + 1 => .array [nested n]

theorem compactChars_nested (n : Nat) : (nested n).compactChars =
    List.replicate (n + 1) '[' ++ List.replicate (n + 1) ']' := by
  induction n with
  | zero => rfl
  | succ n ih =>
    rw [nested, Value.compactChars, ih, Value.compactItems, List.replicate_succ (n := n + 1),
      List.replicate_succ' (n := n + 1)]
    simp

theorem isRead_nested (n : Nat) : (nested n).IsRead (n + 1) := by
  induction n with
  | zero => exact .array (List.forall_mem_nil _)
  | succ n ih => exact .array (List.forall_mem_singleton.mpr ih)

theorem isIntegral_nested (n : Nat) : (nested n).IsIntegral := by
  induction n with
  | zero => trivial
  | succ n ih => exact ⟨ih, trivial⟩

theorem depth_nested (n : Nat) : (nested n).depth = n + 1 := by
  induction n with
  | zero => rfl
  | succ n ih => simp [nested, Value.depth, Value.itemsDepth, ih]

theorem number_notMem_nested (n : Nat) (m : Numeral) : .number m ∉ (nested n).tree.tokens := by
  induction n with
  | zero => simp [nested, Value.tree, Value.itemTrees, Tree.tokens]
  | succ n ih =>
    rw [nested, Value.tree, Tree.number_mem_array, Value.itemTrees,
      Tree.number_mem_itemTokens_cons, not_or]
    exact ⟨ih, by simp [Value.itemTrees, Tree.itemTokens]⟩

/-- A document that nests as deep as the reader lets it, combined into an object, is not read. -/
theorem combine_of_deepest_part :
    let deepest := String.ofList (List.replicate 127 '[' ++ List.replicate 127 ']')
    let parts : Parts := [("a", some (Utf8.encode deepest))]
    AllIntegers parts ∧ (∃ v, Value.ofText? deepest = some v) ∧
      ∃ s, combine parts = some s ∧ Value.ofText? s = none := by
  intro deepest parts
  have ht : deepest = (nested 126).compact := by rw [Value.compact, compactChars_nested]
  have hread : Value.ofText? deepest = some (nested 126) := by
    rw [ht]
    exact Value.ofText?_compact_of_isRead (isRead_nested 126) (isIntegral_nested 126)
  have hi : AllIntegers parts := by
    intro name octets hm t hh _ m hn
    obtain ⟨rfl, rfl⟩ : name = "a" ∧ octets = Utf8.encode deepest := by simpa [parts] using hm
    rw [holds_encode_iff, ht, Value.treeOfText?_compact (isIntegral_nested 126)] at hh
    cases hh
    exact absurd hn (number_notMem_nested 126 m)
  have hp : ¬ LeavesRoom parts := by
    intro hr
    have hlast : LastPart parts "a" (Utf8.encode deepest) := ⟨[], [], rfl, List.forall_mem_nil _⟩
    have hd := hr _ _ _ hlast ((value?_encode deepest).trans hread)
    rw [depth_nested] at hd
    exact absurd hd (by decide)
  have hd : Value.depthLimit < (Value.object (Entries.ofList (present parts))).depth :=
    Nat.not_le.mp fun hl => hp (depth_object_le_iff.mp hl)
  exact ⟨hi, ⟨_, hread⟩, _, rfl, Value.ofText?_compact_eq_none hi.isIntegral_object hd⟩

end AuditTrail.Source
