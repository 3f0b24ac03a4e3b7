import AuditTrail.Proofs.Json.Integers
import AuditTrail.Proofs.Text.Utf8
import AuditTrail.Source

/-! # Payloads in canonical form

A payload in which a document of integers is written is shown as the compact text of its value,
which is read as this value again; so two payloads are shown alike if and only if they have the
same value. Other text is shown as it is, and what was shown is shown without a change.
-/

namespace AuditTrail.Source

open Json Text

/-- The octets of a text in which a document is written. -/
def Holds (octets : List UInt8) (t : Tree) : Prop :=
  ∃ s : String, octets = Utf8.encode s ∧ t.Written s.toList

/-- Octets that hold a document of integers within the limits of the reader. -/
structure HoldsIntegers (octets : List UInt8) (t : Tree) : Prop where
  holds : Holds octets t
  isReadable : t.IsReadable Value.depthLimit
  hasWords : t.HasWords

/-! ## Values of payloads -/

theorem value?_encode (s : String) : value? (Utf8.encode s) = Value.ofText? s := by
  rw [value?, Utf8.decode_encode]
  rfl

theorem text_encode (s : String) :
    text (Utf8.encode s) = (Value.ofText? s).elim s Value.compact := by
  rw [text, Utf8.decode_encode, Value.ofText?]
  dsimp only
  cases Value.ofChars? s.toList with
  | none => exact String.ofList_toList
  | some v => rfl

theorem text_of_value? {octets : List UInt8} {v : Value} (h : value? octets = some v) :
    text octets = v.compact := by
  unfold value? at h
  unfold text
  split at h
  · rw [h]
  · cases h

theorem value?_of_holds {octets : List UInt8} {t : Tree} (h : Holds octets t) :
    value? octets = t.value? Value.depthLimit := by
  obtain ⟨s, rfl, ht⟩ := h
  rw [value?_encode, Value.ofText?, Value.ofChars?, Tree.ofText?_eq_some_iff.mpr ht]
  rfl

theorem holds_encode_iff {s : String} {t : Tree} :
    Holds (Utf8.encode s) t ↔ Tree.ofText? s.toList = some t := by
  rw [Tree.ofText?_eq_some_iff]
  constructor
  · rintro ⟨s', hs, ht⟩
    rw [Utf8.encode_injective hs]
    exact ht
  · exact fun ht => ⟨s, rfl, ht⟩

theorem exists_holds_of_value? {octets : List UInt8} {v : Value} (h : value? octets = some v) :
    ∃ t, Holds octets t ∧ t.value? Value.depthLimit = some v := by
  unfold value? at h
  split at h
  · next cs hcs =>
    obtain ⟨t, ht, hv⟩ := Option.bind_eq_some_iff.mp h
    refine ⟨t, ⟨String.ofList cs, Utf8.decode_eq_ok_iff.mp hcs, ?_⟩, hv⟩
    rw [String.toList_ofList]
    exact Tree.ofText?_eq_some_iff.mp ht
  · cases h

theorem isRead_of_value? {octets : List UInt8} {v : Value} (h : value? octets = some v) :
    v.IsRead Value.depthLimit := by
  obtain ⟨t, -, hv⟩ := exists_holds_of_value? h
  exact Value.isRead_of_value? hv

/-- Octets have no value if and only if they hold no document within the limits of the reader. -/
theorem value?_eq_none_iff {octets : List UInt8} :
    value? octets = none ↔ ∀ t, Holds octets t → ¬ t.IsReadable Value.depthLimit := by
  constructor
  · intro h t ht hr
    rw [Tree.isReadable_iff, ← value?_of_holds ht, h] at hr
    cases hr
  · intro h
    rw [Option.eq_none_iff_forall_ne_some]
    intro v hv
    obtain ⟨t, ht, htv⟩ := exists_holds_of_value? hv
    exact h t ht (Tree.isReadable_iff.mpr (by rw [htv]; rfl))

theorem HoldsIntegers.exists_value {octets : List UInt8} {t : Tree} (h : HoldsIntegers octets t) :
    ∃ v, t.value? Value.depthLimit = some v ∧ value? octets = some v ∧ v.IsIntegral := by
  obtain ⟨v, hv⟩ := Option.isSome_iff_exists.mp (Tree.isReadable_iff.mp h.isReadable)
  exact ⟨v, hv, by rw [value?_of_holds h.holds, hv], h.hasWords.isIntegral hv⟩

/-! ## What is shown -/

theorem ofText?_text {octets : List UInt8} {v : Value} (h : value? octets = some v)
    (hi : v.IsIntegral) : Value.ofText? (text octets) = some v := by
  rw [text_of_value? h, Value.ofText?_compact_of_isRead (isRead_of_value? h) hi]

theorem ofChars?_eq_none_of_letter (cs : List Char) : Value.ofChars? ('u' :: cs) = none := rfl

theorem ofText?_refusal (reason : String) :
    Value.ofText? ("unable to decode request body: " ++ reason) = none := by
  rw [Value.ofText?, String.toList_append]
  exact ofChars?_eq_none_of_letter _

/-- Octets without a value are shown as a text that holds none either. -/
theorem ofText?_text_of_value?_eq_none {octets : List UInt8} (h : value? octets = none) :
    Value.ofText? (text octets) = none := by
  unfold value? at h
  unfold text
  split at h
  · next cs hcs =>
    rw [h, Value.ofText?, String.toList_ofList]
    exact h
  · exact ofText?_refusal _

/-- What was shown is shown without a change. -/
theorem text_encode_text {octets : List UInt8} (h : ∀ v, value? octets = some v → v.IsIntegral) :
    text (Utf8.encode (text octets)) = text octets := by
  rw [text_encode]
  cases hv : value? octets with
  | none => rw [ofText?_text_of_value?_eq_none hv, Option.elim_none]
  | some v => rw [ofText?_text hv (h v hv), Option.elim_some, text_of_value? hv]

/-- A document of integers within the limits of the reader is shown as a text that is read as its
value, and other such documents are shown as this text if and only if they have the same value.
Text that holds no document is shown as it is. All these texts, and the one that stands for octets
that are no text, are shown as themselves. -/
theorem text_canonical (octets : List UInt8) :
    (∀ t, HoldsIntegers octets t → ∃ v, t.value? Value.depthLimit = some v ∧
      Value.ofText? (text octets) = some v ∧
      ∀ octets' t', HoldsIntegers octets' t' →
        (text octets' = text octets ↔ t'.value? Value.depthLimit = some v)) ∧
    (∀ s, octets = Utf8.encode s → (∀ t : Tree, t.Written s.toList →
      ¬ t.IsReadable Value.depthLimit) → text octets = s) ∧
    ((∃ t, HoldsIntegers octets t) ∨ (∀ t, Holds octets t → ¬ t.IsReadable Value.depthLimit) →
      text (Utf8.encode (text octets)) = text octets) := by
  refine ⟨?_, ?_, ?_⟩
  · intro t h
    obtain ⟨v, htv, hv, hi⟩ := h.exists_value
    refine ⟨v, htv, ofText?_text hv hi, fun octets' t' h' => ?_⟩
    obtain ⟨v', htv', hv', hi'⟩ := h'.exists_value
    rw [htv']
    constructor
    · intro ht
      rw [← ofText?_text hv' hi', ht, ofText?_text hv hi]
    · intro he
      rw [text_of_value? hv', text_of_value? hv, Option.some.inj he]
  · rintro s rfl h
    have hn : value? (Utf8.encode s) = none := value?_eq_none_iff.mpr fun t ht =>
      h t (Tree.ofText?_eq_some_iff.mp (holds_encode_iff.mp ht))
    rw [text_encode, ← value?_encode, hn, Option.elim_none]
  · rintro (⟨t, h⟩ | h)
    · obtain ⟨v, -, hv, hi⟩ := h.exists_value
      refine text_encode_text fun w hw => ?_
      rw [hv] at hw
      exact Option.some.inj hw ▸ hi
    · refine text_encode_text fun w hw => ?_
      rw [value?_eq_none_iff.mpr h] at hw
      cases hw

/-- Blanks, the order of members, an escape and a member that another one shadows are not shown. -/
theorem text_canonical_shadowed_member :
    let spread := "\x7b \"b\" : 1, \"a\" : [-2, \"\\u0041\"], \"b\" : 3 \x7d"
    let plain := "\x7b\"a\":[-2,\"A\"],\"b\":3\x7d"
    let list : Tree := .array [.number { negative := true, whole := [2] }, .string (some "A")]
    let t : Tree := .object [(some "b", .number { whole := [1] }), (some "a", list),
      (some "b", .number { whole := [3] })]
    let u : Tree := .object [(some "a", list), (some "b", .number { whole := [3] })]
    HoldsIntegers (Utf8.encode spread) t ∧ HoldsIntegers (Utf8.encode plain) u ∧
      text (Utf8.encode spread) = text (Utf8.encode plain) := by
  intro spread plain list t u
  have htw : t.Written spread.toList := Tree.ofText?_eq_some_iff.mp (by
    simp only [spread, String.reduceToList]
    rfl)
  have huw : u.Written plain.toList := Tree.ofText?_eq_some_iff.mp (by
    simp only [plain, String.reduceToList]
    rfl)
  have hn : ∀ n : Numeral, n = { negative := true, whole := [2] } ∨ n = { whole := [1] } ∨
      n = { whole := [3] } → n.IsWord := by
    rintro n (rfl | rfl | rfl) <;> exact ⟨rfl, rfl, by decide, by decide⟩
  have ht : HoldsIntegers (Utf8.encode spread) t :=
    ⟨⟨spread, rfl, htw⟩, ⟨by decide, by decide⟩, fun n hm => hn n (by
      simpa [t, list, Tree.tokens, Tree.memberTokens, Tree.itemTokens, or_left_comm] using hm)⟩
  have hu : HoldsIntegers (Utf8.encode plain) u :=
    ⟨⟨plain, rfl, huw⟩, ⟨by decide, by decide⟩, fun n hm => hn n (by
      have hm : n = { negative := true, whole := [2] } ∨ n = { whole := [3] } := by
        simpa [u, list, Tree.tokens, Tree.memberTokens, Tree.itemTokens] using hm
      exact hm.imp_right Or.inr)⟩
  obtain ⟨v, hv, -, halike⟩ := (text_canonical (Utf8.encode plain)).1 u hu
  have htu : t.value? Value.depthLimit = u.value? Value.depthLimit := by decide +kernel
  exact ⟨ht, hu, (halike _ t ht).mpr (htu.trans hv)⟩

end AuditTrail.Source
