import AuditTrail.Proofs.Text.Split
import AuditTrail.Proofs.Url.Percent
import AuditTrail.Url.Form

/-! # Reading written forms

Each character of a name or a value is written with letters, digits and a few marks that are no
separators, and is read as this character again, so a written form is read as the pairs that it
was written for.
-/

namespace AuditTrail.Url.Form

/-! ## Characters of written forms -/

/-- What a name or a value is written with. -/
def isWritten (c : Char) : Bool := isPlain c || c == '+' || c == '%'

theorem ne_of_isWritten {c d : Char} (h : isWritten c = true) (hd : isWritten d = false) :
    c ≠ d := by
  rintro rfl
  rw [h] at hd
  contradiction

theorem isWritten_of_isCode {c : Char} (h : isCode c = true) : isWritten c = true := by
  rcases Bool.or_eq_true _ _ ▸ h with h | h
  · rw [beq_iff_eq.mp h]
    decide
  · simp [isWritten, isPlain, h]

theorem unplus_of_isCode {c : Char} (h : isCode c = true) : unplus c = c := by
  have hne : c ≠ '+' := by
    rintro rfl
    contradiction
  exact if_neg hne

theorem isWritten_of_mem_encodeChar {c d : Char} (h : d ∈ encodeChar c) : isWritten d = true := by
  unfold encodeChar Url.encodeChar at h
  split_ifs at h with hc hp
  · rw [List.mem_singleton.mp h]
    decide
  · obtain ⟨b, _, hd⟩ := List.mem_flatMap.mp h
    exact isWritten_of_isCode (isCode_of_mem_octetChars hd)
  · rw [List.mem_singleton.mp h]
    simp [isWritten, show isPlain c = true by simpa using hp]

theorem isWritten_of_mem_encodeText {s : String} {d : Char} (h : d ∈ encodeText s) :
    isWritten d = true := by
  obtain ⟨c, _, hd⟩ := List.mem_flatMap.mp h
  exact isWritten_of_mem_encodeChar hd

theorem mem_encodePair {p : String × String} {d : Char} (h : d ∈ encodePair p) :
    isWritten d = true ∨ d = '=' := by
  rcases List.mem_append.mp h with h | h
  · exact Or.inl (isWritten_of_mem_encodeText h)
  · rcases List.mem_cons.mp h with rfl | h
    · exact Or.inr rfl
    · exact Or.inl (isWritten_of_mem_encodeText h)

/-- A written form has nothing but written characters and separators. -/
theorem mem_encode {pairs : List (String × String)} {c : Char} (h : c ∈ (encode pairs).toList) :
    isWritten c = true ∨ c = '=' ∨ c = '&' := by
  rw [encode, String.toList_ofList] at h
  rcases Text.mem_intercalate h with rfl | ⟨part, hp, hc⟩
  · exact Or.inr (Or.inr rfl)
  · obtain ⟨p, _, rfl⟩ := List.mem_map.mp hp
    exact (mem_encodePair hc).imp_right Or.inl

/-! ## Reading names and values -/

theorem map_unplus_octets (octets : List UInt8) :
    (octets.flatMap octetChars).map unplus = octets.flatMap octetChars := by
  refine (List.map_congr_left fun c hc => ?_).trans (List.map_id _)
  obtain ⟨b, _, hb⟩ := List.mem_flatMap.mp hc
  exact unplus_of_isCode (isCode_of_mem_octetChars hb)

theorem decode_encodeChar (c : Char) (rest : List Char) :
    Url.decode ((encodeChar c).map unplus ++ rest) =
      String.utf8EncodeChar c ++ Url.decode rest := by
  unfold encodeChar Url.encodeChar
  split_ifs with hc hp
  · rw [hc]
    exact decode_cons_of_ne (by decide) rest
  · rw [map_unplus_octets, decode_octets]
  · have hw : isPlain c = true := by simpa using hp
    have hplus : c ≠ '+' := by rintro rfl; contradiction
    have hpercent : c ≠ '%' := by rintro rfl; contradiction
    rw [List.map_singleton, unplus, if_neg hplus, List.singleton_append,
      decode_cons_of_ne hpercent]

theorem decode_encodeChars (cs : List Char) :
    Url.decode ((cs.flatMap encodeChar).map unplus) = cs.flatMap String.utf8EncodeChar := by
  induction cs with
  | nil => simp [Url.decode]
  | cons c cs ih =>
    rw [List.flatMap_cons, List.map_append, decode_encodeChar, ih, List.flatMap_cons]

theorem decodeText_encodeText (s : String) : decodeText (encodeText s) = s := by
  rw [decodeText, encodeText, decode_encodeChars, Text.Utf8.decodeLossy_encodeChars,
    String.ofList_toList]

theorem decodePair_encodePair (p : String × String) : decodePair (encodePair p) = p := by
  have hn : ∀ c ∈ encodeText p.1, (c != '=') = true := fun c hc =>
    bne_iff_ne.mpr (ne_of_isWritten (isWritten_of_mem_encodeText hc) (by decide))
  have he : ('=' != '=') = false := by decide
  rw [decodePair, encodePair, List.takeWhile_append_of_pos hn, List.dropWhile_append_of_pos hn,
    List.takeWhile_cons, he, List.dropWhile_cons, he]
  simp [decodeText_encodeText]

/-! ## Reading pairs -/

/-- A written form is read as the pairs that it was written for. -/
theorem decode_encode (pairs : List (String × String)) : decode (encode pairs) = pairs := by
  have hs : ∀ part ∈ pairs.map encodePair, ∀ c ∈ part, (c == '&') = false := by
    intro part hp c hc
    obtain ⟨p, _, rfl⟩ := List.mem_map.mp hp
    rcases mem_encodePair hc with hw | rfl
    · exact beq_eq_false_iff_ne.mpr (ne_of_isWritten hw (by decide))
    · rfl
  have hf : ((pairs.map encodePair).filter fun cs => !cs.isEmpty) = pairs.map encodePair := by
    rw [List.filter_eq_self]
    intro part hp
    obtain ⟨p, _, rfl⟩ := List.mem_map.mp hp
    simp [encodePair]
  by_cases hn : pairs = []
  · rw [hn]
    rfl
  · rw [decode, encode, String.toList_ofList,
      Text.splitWhere_intercalate (by decide) (by simpa using hn) hs, hf, List.map_map]
    simp [Function.comp_def, decodePair_encodePair]

theorem decode_join (s t : String) : decode (s ++ "&" ++ t) = decode s ++ decode t := by
  have ht : (s ++ "&" ++ t).toList = s.toList ++ '&' :: t.toList := by simp
  rw [decode, ht, Text.splitWhere_append_cons (by decide), List.filter_append, List.map_append]
  rfl

theorem encode_ne_empty {pairs : List (String × String)} (h : pairs ≠ []) :
    encode pairs ≠ "" := by
  intro he
  apply h
  rw [← decode_encode pairs, he]
  rfl

/-- Reading takes more than written forms: separators that meet, names alone and octets that are
no text. -/
example : decode "user=J%C3%BCrgen+M.&&flag&x=%FF%2B" =
    [("user", "Jürgen M."), ("flag", ""), ("x", "\uFFFD+")] := by decide +kernel

end AuditTrail.Url.Form
