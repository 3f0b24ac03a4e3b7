import AuditTrail.Proofs.Text.Utf8
import AuditTrail.Url.Percent

/-! # Reading percent coding

Coded text has signs, hexadecimal digits and characters that are not coded. Where the class of
coded characters has the sign itself, coded text is read as the octets of what was coded; where
it has neither the sign nor the digits, coding text again changes nothing.
-/

namespace AuditTrail.Url

variable {coded : Char → Bool} {cs : List Char} {c d : Char}

/-! ## Octets -/

theorem hexValue?_upperHex : ∀ n < 16, hexValue? (upperHex n) = some n := by decide

theorem decode_octetChars (b : UInt8) (rest : List Char) :
    decode (octetChars b ++ rest) = b :: decode rest := by
  have hb : b.toNat < 256 := b.toNat_lt
  have hh : hexValue? (upperHex (b.toNat / 16)) = some (b.toNat / 16) :=
    hexValue?_upperHex _ (by omega)
  have hl : hexValue? (upperHex (b.toNat % 16)) = some (b.toNat % 16) :=
    hexValue?_upperHex _ (by omega)
  have he : b.toNat / 16 * 16 + b.toNat % 16 = b.toNat := by omega
  simp [octetChars, decode, hh, hl, he]

theorem decode_octets (octets : List UInt8) (rest : List Char) :
    decode (octets.flatMap octetChars ++ rest) = octets ++ decode rest := by
  induction octets with
  | nil => rfl
  | cons b octets ih =>
    rw [List.flatMap_cons, List.append_assoc, decode_octetChars, ih, List.cons_append]

theorem decode_cons_of_ne {c : Char} (h : c ≠ '%') (rest : List Char) :
    decode (c :: rest) = String.utf8EncodeChar c ++ decode rest := by
  rw [decode]
  exact fun _ _ _ h' _ => absurd h' h

/-! ## Characters of coded text -/

/-- An octet is written with the sign, digits and letters. -/
def isCode (c : Char) : Bool := c == '%' || c.isAlphanum

theorem isCode_of_mem_octetChars {b : UInt8} (h : c ∈ octetChars b) : isCode c = true := by
  have hb : b.toNat < 256 := b.toNat_lt
  have hex : ∀ n < 16, isCode (upperHex n) = true := by decide
  simp only [octetChars, List.mem_cons, List.not_mem_nil, or_false] at h
  rcases h with rfl | rfl | rfl
  · rfl
  · exact hex _ (by omega)
  · exact hex _ (by omega)

theorem mem_encodeChar (h : d ∈ encodeChar coded c) :
    isCode d = true ∨ d = c ∧ coded c = false := by
  unfold encodeChar at h
  split_ifs at h with hc
  · obtain ⟨b, _, hb⟩ := List.mem_flatMap.mp h
    exact Or.inl (isCode_of_mem_octetChars hb)
  · exact Or.inr ⟨List.mem_singleton.mp h, Bool.not_eq_true _ ▸ hc⟩

theorem mem_encode (h : d ∈ encode coded cs) : isCode d = true ∨ d ∈ cs ∧ coded d = false := by
  obtain ⟨c, hc, hd⟩ := List.mem_flatMap.mp h
  refine (mem_encodeChar hd).imp_right ?_
  rintro ⟨rfl, hu⟩
  exact ⟨hc, hu⟩

/-! ## Coding again -/

theorem encode_of_forall (h : ∀ c ∈ cs, coded c = false) : encode coded cs = cs := by
  induction cs with
  | nil => rfl
  | cons c cs ih =>
    rw [List.forall_mem_cons] at h
    rw [encode, List.flatMap_cons, encodeChar, if_neg (by simp [h.1]), ← encode, ih h.2]
    rfl

theorem forall_mem_encode (h : ∀ c, isCode c = true → coded c = false) (cs : List Char) :
    ∀ c ∈ encode coded cs, coded c = false := by
  intro c hc
  rcases mem_encode hc with hc | ⟨_, hc⟩
  · exact h c hc
  · exact hc

/-! ## Reading what was coded -/

theorem decode_encodeChar_append (h : coded '%' = true) (c : Char) (rest : List Char) :
    decode (encodeChar coded c ++ rest) = String.utf8EncodeChar c ++ decode rest := by
  unfold encodeChar
  split_ifs with hc
  · exact decode_octets _ rest
  · have hne : c ≠ '%' := by
      rintro rfl
      exact hc h
    exact decode_cons_of_ne hne rest

/-- Where the sign is coded, coded text is read as the octets of what was coded. -/
theorem decode_encode (h : coded '%' = true) (cs : List Char) :
    decode (encode coded cs) = cs.flatMap String.utf8EncodeChar := by
  induction cs with
  | nil => rw [encode, List.flatMap_nil, List.flatMap_nil, decode]
  | cons c cs ih =>
    rw [encode, List.flatMap_cons, decode_encodeChar_append h, ← encode, ih, List.flatMap_cons]

theorem decode_encode_toList (h : coded '%' = true) (s : String) :
    decode (encode coded s.toList) = Text.Utf8.encode s := by
  rw [decode_encode h, Text.Utf8.encode_eq]

end AuditTrail.Url
