import AuditTrail.Text.Utf8
import Mathlib.Tactic.SplitIfs

/-! # Decoding what was encoded

The decoder reads the octets of a character as this character, wherever they stand, and takes no
others; so octets are decoded if and only if they are those of a text. Lossy decoding changes
nothing in them.
-/

namespace AuditTrail.Text.Utf8

variable {rest : List UInt8} {done : List Char} {index : Nat}

/-! ## First octets -/

theorem lead?_two : ∀ n < 32, 2 ≤ n →
    lead? (UInt8.ofNat (n + 192)) = some { code := n, seen := 1, missing := 1 } := by
  decide

theorem lead?_three : ∀ n < 16, lead? (UInt8.ofNat (n + 224)) =
    some { code := n, seen := 1, missing := 2, low := if n = 0 then 0xA0 else 0x80,
           high := if n = 13 then 0x9F else 0xBF } := by
  decide

theorem lead?_four : ∀ n < 5, lead? (UInt8.ofNat (n + 240)) =
    some { code := n, seen := 1, missing := 3, low := if n = 0 then 0x90 else 0x80,
           high := if n = 4 then 0x8F else 0xBF } := by
  decide

theorem decodeFrom_lead {n : Nat} {p : Partial} (hl : 0x80 ≤ n) (hu : n < 0x100)
    (hp : lead? (UInt8.ofNat n) = some p) :
    decodeFrom index none done (UInt8.ofNat n :: rest) = decodeFrom index (some p) done rest := by
  have hn : ¬ UInt8.ofNat n < 0x80 := by
    rw [UInt8.lt_iff_toNat_lt, UInt8.toNat_ofNat', Nat.mod_eq_of_lt hu]
    exact Nat.not_lt.mpr hl
  simp only [decodeFrom, hn, if_false, hp]

/-! ## Further octets -/

theorem decodeFrom_tail {p : Partial} {n : Nat} (hl : p.low.toNat ≤ n % 64 + 128)
    (hu : n % 64 + 128 ≤ p.high.toNat) :
    decodeFrom index (some p) done (UInt8.ofNat (n % 64 + 128) :: rest) =
      if p.missing ≤ 1 then
        decodeFrom (index + p.seen + 1) none (Char.ofNat (p.code * 64 + n % 64) :: done) rest
      else
        decodeFrom index
          (some { code := p.code * 64 + n % 64, seen := p.seen + 1, missing := p.missing - 1 })
          done rest := by
  have ht : (UInt8.ofNat (n % 64 + 128)).toNat = n % 64 + 128 := by
    rw [UInt8.toNat_ofNat']
    omega
  have hc : (UInt8.ofNat (n % 64 + 128) &&& 0x3F).toNat = n % 64 := by
    have hm : (0x3F : UInt8).toNat = 2 ^ 6 - 1 := rfl
    rw [UInt8.toNat_and, ht, hm, Nat.and_two_pow_sub_one_eq_mod]
    omega
  have hin :
      (p.low ≤ UInt8.ofNat (n % 64 + 128) && UInt8.ofNat (n % 64 + 128) ≤ p.high) = true := by
    simp only [Bool.and_eq_true, decide_eq_true_eq, UInt8.le_iff_toNat_le, ht]
    exact ⟨hl, hu⟩
  simp only [decodeFrom, hin, hc, if_true]

theorem decodeFrom_last (code seen n : Nat) :
    decodeFrom index (some { code, seen, missing := 1 }) done
        (UInt8.ofNat (n % 64 + 128) :: rest) =
      decodeFrom (index + seen + 1) none (Char.ofNat (code * 64 + n % 64) :: done) rest := by
  have hu : n % 64 + 128 ≤ 191 := by omega
  exact decodeFrom_tail (Nat.le_add_left ..) hu

theorem decodeFrom_next (missing code seen : Nat) {low high : UInt8} {n : Nat}
    (hl : low.toNat ≤ n % 64 + 128) (hu : n % 64 + 128 ≤ high.toNat) :
    decodeFrom index (some { code, seen, missing := missing + 2, low, high }) done
        (UInt8.ofNat (n % 64 + 128) :: rest) =
      decodeFrom index
        (some { code := code * 64 + n % 64, seen := seen + 1, missing := missing + 1 })
        done rest := by
  rw [decodeFrom_tail hl hu, if_neg (by simp)]
  rfl

/-! ## Characters -/

theorem decodeFrom_two {v : Nat} (hl : 0x7F < v) (hu : v ≤ 0x7FF) :
    decodeFrom index none done (UInt8.ofNat (v / 64 % 32 + 192) ::
        UInt8.ofNat (v % 64 + 128) :: rest) =
      decodeFrom (index + 2) none (Char.ofNat v :: done) rest := by
  have hm : v / 64 % 32 = v / 64 := by omega
  have hs : v / 64 * 64 + v % 64 = v := by omega
  rw [hm, decodeFrom_lead (by omega) (by omega) (lead?_two _ (by omega) (by omega)),
    decodeFrom_last, hs]

theorem decodeFrom_three {v : Nat} (hl : 0x7FF < v) (hu : v ≤ 0xFFFF)
    (hv : v < 0xD800 ∨ 0xDFFF < v) :
    decodeFrom index none done (UInt8.ofNat (v / 4096 % 16 + 224) ::
        UInt8.ofNat (v / 64 % 64 + 128) :: UInt8.ofNat (v % 64 + 128) :: rest) =
      decodeFrom (index + 3) none (Char.ofNat v :: done) rest := by
  have hm : v / 4096 % 16 = v / 4096 := by omega
  have hs : (v / 4096 * 64 + v / 64 % 64) * 64 + v % 64 = v := by omega
  rw [hm, decodeFrom_lead (by omega) (by omega) (lead?_three _ (by omega)),
    decodeFrom_next 0, decodeFrom_last, hs]
  · split_ifs with h
    · change 0xA0 ≤ _
      omega
    · exact Nat.le_add_left ..
  · split_ifs with h
    · change _ ≤ 0x9F
      omega
    · change _ ≤ 0xBF
      omega

theorem decodeFrom_four {v : Nat} (hl : 0xFFFF < v) (hu : v < 0x110000) :
    decodeFrom index none done (UInt8.ofNat (v / 262144 % 8 + 240) ::
        UInt8.ofNat (v / 4096 % 64 + 128) :: UInt8.ofNat (v / 64 % 64 + 128) ::
        UInt8.ofNat (v % 64 + 128) :: rest) =
      decodeFrom (index + 4) none (Char.ofNat v :: done) rest := by
  have hm : v / 262144 % 8 = v / 262144 := by omega
  have hs : ((v / 262144 * 64 + v / 4096 % 64) * 64 + v / 64 % 64) * 64 + v % 64 = v := by omega
  have hn : v / 64 % 64 + 128 ≤ 0xBF := by omega
  rw [hm, decodeFrom_lead (by omega) (by omega) (lead?_four _ (by omega)),
    decodeFrom_next 1, decodeFrom_next 0 _ _ (Nat.le_add_left ..) hn, decodeFrom_last, hs]
  · split_ifs with h
    · change 0x90 ≤ _
      omega
    · exact Nat.le_add_left ..
  · split_ifs with h
    · change _ ≤ 0x8F
      omega
    · change _ ≤ 0xBF
      omega

theorem decodeFrom_encodeChar (c : Char) :
    decodeFrom index none done (String.utf8EncodeChar c ++ rest) =
      decodeFrom (index + (String.utf8EncodeChar c).length) none (c :: done) rest := by
  have hc : Char.ofNat c.val.toNat = c := Char.ofNat_toNat c
  have hv : c.val.toNat < 0xD800 ∨ 0xDFFF < c.val.toNat ∧ c.val.toNat < 0x110000 := c.valid
  unfold String.utf8EncodeChar
  generalize c.val.toNat = v at hc hv
  rw [← hc]
  simp only
  split_ifs with h₁ h₂ h₃
  · have hb : (UInt8.ofNat v).toNat = v := by
      rw [UInt8.toNat_ofNat']
      omega
    have hlt : UInt8.ofNat v < 0x80 := by
      rw [UInt8.lt_iff_toNat_lt, hb]
      exact Nat.lt_succ_of_le h₁
    simp [decodeFrom, hlt, hb]
  · exact decodeFrom_two (Nat.not_le.mp h₁) h₂
  · exact decodeFrom_three (Nat.not_le.mp h₂) h₃ (by omega)
  · exact decodeFrom_four (Nat.not_le.mp h₃) (by omega)

theorem decodeFrom_encodeChars (cs : List Char) :
    decodeFrom index none done (cs.flatMap String.utf8EncodeChar) = .ok (done.reverse ++ cs) := by
  induction cs generalizing index done with
  | nil => simp [decodeFrom]
  | cons c cs ih =>
    rw [List.flatMap_cons, decodeFrom_encodeChar, ih]
    simp

/-- The octets of characters are read as these characters. -/
theorem decode_encodeChars (cs : List Char) :
    decode (cs.flatMap String.utf8EncodeChar) = .ok cs :=
  decodeFrom_encodeChars cs

/-! ## Octets that are decoded -/

theorem toNat_val_ofNat {v : Nat} (hv : v.isValidChar) : (Char.ofNat v).val.toNat = v := by
  rw [Char.ofNat, dif_pos hv]
  rfl

theorem utf8EncodeChar_one {v : Nat} (hv : v ≤ 0x7F) :
    String.utf8EncodeChar (Char.ofNat v) = [UInt8.ofNat v] := by
  rw [String.utf8EncodeChar, toNat_val_ofNat (Or.inl (by omega)), if_pos hv]

theorem utf8EncodeChar_two {n m : Nat} (hn : n < 32) (hl : 2 ≤ n) (hm : m < 64) :
    String.utf8EncodeChar (Char.ofNat (n * 64 + m)) =
      [UInt8.ofNat (n + 192), UInt8.ofNat (m % 64 + 128)] := by
  have hd : (n * 64 + m) / 64 % 32 = n := by omega
  have hr : (n * 64 + m) % 64 = m % 64 := by omega
  rw [String.utf8EncodeChar, toNat_val_ofNat (Or.inl (by omega)), if_neg (by omega),
    if_pos (by omega), hd, hr]

theorem utf8EncodeChar_three {n m k : Nat} (hn : n < 16) (hm : m < 64) (hk : k < 64)
    (hl : n = 0 → 32 ≤ m) (hu : n = 13 → m < 32) :
    String.utf8EncodeChar (Char.ofNat ((n * 64 + m) * 64 + k)) =
      [UInt8.ofNat (n + 224), UInt8.ofNat (m % 64 + 128), UInt8.ofNat (k % 64 + 128)] := by
  have hv : ((n * 64 + m) * 64 + k).isValidChar := by
    unfold Nat.isValidChar
    omega
  have hd : ((n * 64 + m) * 64 + k) / 4096 % 16 = n := by omega
  have hq : ((n * 64 + m) * 64 + k) / 64 % 64 = m % 64 := by omega
  have hr : ((n * 64 + m) * 64 + k) % 64 = k % 64 := by omega
  rw [String.utf8EncodeChar, toNat_val_ofNat hv, if_neg (by omega), if_neg (by omega),
    if_pos (by omega), hd, hq, hr]

theorem utf8EncodeChar_four {n m k j : Nat} (hn : n < 5) (hm : m < 64) (hk : k < 64) (hj : j < 64)
    (hl : n = 0 → 16 ≤ m) (hu : n = 4 → m < 16) :
    String.utf8EncodeChar (Char.ofNat (((n * 64 + m) * 64 + k) * 64 + j)) =
      [UInt8.ofNat (n + 240), UInt8.ofNat (m % 64 + 128), UInt8.ofNat (k % 64 + 128),
        UInt8.ofNat (j % 64 + 128)] := by
  have hv : (((n * 64 + m) * 64 + k) * 64 + j).isValidChar := by
    unfold Nat.isValidChar
    omega
  have hd : (((n * 64 + m) * 64 + k) * 64 + j) / 262144 % 8 = n := by omega
  have hc : (((n * 64 + m) * 64 + k) * 64 + j) / 4096 % 64 = m % 64 := by omega
  have hq : (((n * 64 + m) * 64 + k) * 64 + j) / 64 % 64 = k % 64 := by omega
  have hr : (((n * 64 + m) * 64 + k) * 64 + j) % 64 = j % 64 := by omega
  rw [String.utf8EncodeChar, toNat_val_ofNat hv, if_neg (by omega), if_neg (by omega),
    if_neg (by omega), hd, hc, hq, hr]

theorem lead?_eq_none : ∀ n < 256, n < 194 ∨ 244 < n → lead? (UInt8.ofNat n) = none := by
  decide +kernel

theorem lead?_cases {b : UInt8} {p : Partial} (h : lead? b = some p) :
    (∃ n < 32, 2 ≤ n ∧ b = UInt8.ofNat (n + 192)) ∨
      (∃ n < 16, b = UInt8.ofNat (n + 224)) ∨ ∃ n < 5, b = UInt8.ofNat (n + 240) := by
  have hb : UInt8.ofNat b.toNat = b := UInt8.ofNat_toNat
  have hlt : b.toNat < 256 := b.toNat_lt
  have hin : ¬ (b.toNat < 194 ∨ 244 < b.toNat) := by
    intro hout
    rw [← hb, lead?_eq_none _ hlt hout] at h
    cases h
  by_cases h₂ : b.toNat < 224
  · exact .inl ⟨b.toNat - 192, by omega, by omega, by rw [Nat.sub_add_cancel (by omega), hb]⟩
  by_cases h₃ : b.toNat < 240
  · exact .inr (.inl ⟨b.toNat - 224, by omega, by rw [Nat.sub_add_cancel (by omega), hb]⟩)
  · exact .inr (.inr ⟨b.toNat - 240, by omega, by rw [Nat.sub_add_cancel (by omega), hb]⟩)

theorem bounds_of_lead? {b : UInt8} {p : Partial} (h : lead? b = some p) :
    0x80 ≤ p.low.toNat ∧ p.high.toNat ≤ 0xBF := by
  rcases lead?_cases h with ⟨n, hn, hl, rfl⟩ | ⟨n, hn, rfl⟩ | ⟨n, hn, rfl⟩
  · obtain rfl := Option.some.inj (h.symm.trans (lead?_two n hn hl))
    exact ⟨Nat.le_refl _, Nat.le_refl _⟩
  · obtain rfl := Option.some.inj (h.symm.trans (lead?_three n hn))
    constructor <;> dsimp only <;> split_ifs <;> decide
  · obtain rfl := Option.some.inj (h.symm.trans (lead?_four n hn))
    constructor <;> dsimp only <;> split_ifs <;> decide

theorem exists_tail {p : Partial} (hl : 0x80 ≤ p.low.toNat) (hu : p.high.toNat ≤ 0xBF)
    {octets : List UInt8} {cs : List Char} (h : decodeFrom index (some p) done octets = .ok cs) :
    ∃ n rest, octets = UInt8.ofNat (n % 64 + 128) :: rest ∧ n < 64 ∧
      p.low.toNat ≤ n % 64 + 128 ∧ n % 64 + 128 ≤ p.high.toNat := by
  cases octets with
  | nil => simp [decodeFrom] at h
  | cons b rest =>
    rw [decodeFrom] at h
    simp only at h
    split at h
    · next hin =>
      simp only [Bool.and_eq_true, decide_eq_true_eq, UInt8.le_iff_toNat_le] at hin
      have hn : (b.toNat - 128) % 64 + 128 = b.toNat := by omega
      refine ⟨b.toNat - 128, rest, ?_, by omega, by omega, by omega⟩
      rw [hn, UInt8.ofNat_toNat]
    · cases h

theorem exists_char {b : UInt8} {octets : List UInt8} {cs : List Char}
    (h : decodeFrom index none done (b :: octets) = .ok cs) :
    ∃ c rest, b :: octets = String.utf8EncodeChar c ++ rest := by
  rw [decodeFrom] at h
  split at h
  · next hb =>
    have hb : b.toNat ≤ 0x7F := Nat.le_of_lt_succ (UInt8.lt_iff_toNat_lt.mp hb)
    exact ⟨Char.ofNat b.toNat, octets, by rw [utf8EncodeChar_one hb, UInt8.ofNat_toNat]; rfl⟩
  split at h
  · next p hp =>
    obtain ⟨m, o, rfl, hm, hlo, hhi⟩ := exists_tail (bounds_of_lead? hp).1 (bounds_of_lead? hp).2 h
    rcases lead?_cases hp with ⟨n, hn, hl, rfl⟩ | ⟨n, hn, rfl⟩ | ⟨n, hn, rfl⟩
    · exact ⟨_, o, by rw [utf8EncodeChar_two hn hl hm]; rfl⟩
    · obtain rfl := Option.some.inj (hp.symm.trans (lead?_three n hn))
      rw [decodeFrom_next 0 _ _ hlo hhi] at h
      obtain ⟨k, rest, rfl, hk, -⟩ := exists_tail (Nat.le_refl _) (Nat.le_refl _) h
      have hl : n = 0 → 32 ≤ m := by
        rintro rfl
        change 160 ≤ m % 64 + 128 at hlo
        omega
      have hu : n = 13 → m < 32 := by
        rintro rfl
        change m % 64 + 128 ≤ 159 at hhi
        omega
      exact ⟨_, rest, by rw [utf8EncodeChar_three hn hm hk hl hu]; rfl⟩
    · obtain rfl := Option.some.inj (hp.symm.trans (lead?_four n hn))
      rw [decodeFrom_next 1 _ _ hlo hhi] at h
      obtain ⟨k, o, rfl, hk, hlo', hhi'⟩ := exists_tail (Nat.le_refl _) (Nat.le_refl _) h
      rw [decodeFrom_next 0 _ _ hlo' hhi'] at h
      obtain ⟨j, rest, rfl, hj, -⟩ := exists_tail (Nat.le_refl _) (Nat.le_refl _) h
      have hl : n = 0 → 16 ≤ m := by
        rintro rfl
        change 144 ≤ m % 64 + 128 at hlo
        omega
      have hu : n = 4 → m < 16 := by
        rintro rfl
        change m % 64 + 128 ≤ 143 at hhi
        omega
      exact ⟨_, rest, by rw [utf8EncodeChar_four hn hm hk hj hl hu]; rfl⟩
  · cases h

theorem exists_chars {octets : List UInt8} {cs : List Char}
    (h : decodeFrom index none done octets = .ok cs) :
    ∃ ds, cs = done.reverse ++ ds ∧ octets = ds.flatMap String.utf8EncodeChar := by
  induction hlen : octets.length using Nat.strongRecOn generalizing octets index done with
  | ind n ih =>
    cases octets with
    | nil =>
      rw [decodeFrom] at h
      cases h
      exact ⟨[], (List.append_nil _).symm, rfl⟩
    | cons b octets =>
      obtain ⟨c, rest, hc⟩ := exists_char h
      have hpos : 0 < (String.utf8EncodeChar c).length := by
        rw [String.length_utf8EncodeChar]
        exact c.utf8Size_pos
      have hlt : rest.length < n := by
        rw [← hlen, hc, List.length_append]
        omega
      rw [hc, decodeFrom_encodeChar] at h
      obtain ⟨ds, rfl, hr⟩ := ih _ hlt h rfl
      exact ⟨c :: ds, by simp, by rw [hc, hr, List.flatMap_cons]⟩

/-! ## Octets of texts -/

theorem toList_eq_data (bytes : ByteArray) : bytes.toList = bytes.data.toList := by
  suffices h : ∀ i read, ByteArray.toList.loop bytes i read =
      read.reverse ++ bytes.data.toList.drop i from h 0 []
  intro i read
  fun_induction ByteArray.toList.loop bytes i read with
  | case1 i read hi ih =>
    have hd : i < bytes.data.toList.length := by simpa using hi
    rw [ih, List.drop_eq_getElem_cons hd]
    simp [ByteArray.get!, hi]
  | case2 i read hi => rw [List.drop_eq_nil_of_le (by simpa using hi), List.append_nil]

theorem encode_eq (s : String) : encode s = s.toList.flatMap String.utf8EncodeChar := by
  have hs : s.toByteArray = s.toList.utf8Encode := by
    rw [← String.toByteArray_ofList, String.ofList_toList]
  rw [encode, String.toUTF8_eq_toByteArray, hs, toList_eq_data, List.utf8Encode,
    List.toList_data_toByteArray]

theorem decode_encode (s : String) : decode (encode s) = .ok s.toList := by
  rw [encode_eq, decode_encodeChars]

/-- Octets are decoded if and only if they are those of a text, and then as this text. -/
theorem decode_eq_ok_iff {octets : List UInt8} {cs : List Char} :
    decode octets = .ok cs ↔ octets = encode (String.ofList cs) := by
  constructor
  · intro h
    obtain ⟨ds, rfl, hds⟩ := exists_chars h
    rw [encode_eq, String.toList_ofList]
    exact hds
  · rintro rfl
    rw [decode_encode, String.toList_ofList]

theorem encode_injective {s s' : String} (h : encode s = encode s') : s = s' := by
  have hd := decode_encode s
  rw [h, decode_encode] at hd
  exact (String.toList_inj.mp (Except.ok.inj hd)).symm

/-! ## Lossy decoding -/

/-- Where the decoder refuses nothing, the lossy decoder reads the same. -/
theorem decodeLossyFrom_of_decodeFrom {pending : Option Partial} {octets : List UInt8}
    {cs : List Char} (h : decodeFrom index pending done octets = .ok cs) :
    done.reverse ++ decodeLossyFrom pending octets = cs := by
  induction octets generalizing index pending done with
  | nil =>
    cases pending with
    | none => simpa [decodeFrom, decodeLossyFrom] using h
    | some p => simp [decodeFrom] at h
  | cons b octets ih =>
    cases pending with
    | none =>
      simp only [decodeFrom] at h
      simp only [decodeLossyFrom, stepLossy, beginLossy]
      split_ifs at h with hb
      · rw [if_pos hb]
        simpa using ih h
      · rw [if_neg hb]
        cases hp : lead? b with
        | none => simp [hp] at h
        | some p =>
          rw [hp] at h
          exact ih h
    | some p =>
      simp only [decodeFrom] at h
      simp only [decodeLossyFrom, stepLossy]
      split_ifs at h with hin hm
      · rw [if_pos hin, if_pos hm]
        simpa using ih h
      · rw [if_pos hin, if_neg hm]
        exact ih h

theorem decodeLossy_encodeChars (cs : List Char) :
    decodeLossy (cs.flatMap String.utf8EncodeChar) = cs :=
  decodeLossyFrom_of_decodeFrom (decode_encodeChars cs)

end AuditTrail.Text.Utf8
