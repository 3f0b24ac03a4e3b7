import AuditTrail.Json.Printer
import AuditTrail.Proofs.Json.Numerals
import AuditTrail.Proofs.Json.Strings
import Mathlib.Data.List.Chain

/-! # Reading tokens

How a token is written, and that one is read at the front of a text if and only if it is written
there, as long as no numeral goes on behind it. So tokens are read from a text in which they are
written one after the other, with blanks wherever they may stand. Quoted text and written integers
are one token each.
-/

namespace AuditTrail.Json.Token

/-! ## Tokens as written -/

/-- How a token is written. -/
inductive Written : Token → List Char → Prop
  | beginObject : Written .beginObject ['{']
  | endObject : Written .endObject ['}']
  | beginArray : Written .beginArray ['[']
  | endArray : Written .endArray [']']
  | colon : Written .colon [':']
  | comma : Written .comma [',']
  | null : Written .null ['n', 'u', 'l', 'l']
  | true : Written (.bool true) ['t', 'r', 'u', 'e']
  | false : Written (.bool false) ['f', 'a', 'l', 's', 'e']
  | number {n : Numeral} {cs : List Char} : n.Written cs → Written (.number n) cs
  | string {text : Option String} {cs : List Char} :
    StringWritten text cs → Written (.string text) cs

def isNumber : Token → Bool
  | .number _ => true
  | _ => false

/-! ## Reading one token -/

theorem isSpace_iff {c : Char} :
    isSpace c = true ↔ c = ' ' ∨ c = '\n' ∨ c = '\t' ∨ c = '\r' := by
  simp [isSpace, or_assoc]

theorem read?_of_isDigit {c : Char} (h : c.isDigit = true) (cs : List Char) :
    read? (c :: cs) = (readNumeral false (c :: cs)).map fun r => (.number r.1, r.2) := by
  unfold read?
  split
  · contradiction
  · next he =>
    obtain ⟨rfl, rfl⟩ := List.cons.inj he
    split <;> first | rfl | exact absurd h (by decide)

theorem isSpace_of_isDigit {c : Char} (h : c.isDigit = true) : isSpace c = false := by
  rw [← Bool.not_eq_true, isSpace_iff]
  rintro (rfl | rfl | rfl | rfl) <;> exact absurd h (by decide)

theorem read?_numeral {n : Numeral} {cs rest : List Char} (hn : n.Written cs)
    (hr : EndsNumeral rest) : read? (cs ++ rest) = some (.number n, rest) := by
  obtain ⟨m, hm, rfl⟩ := hn
  have hread := readNumeral_append hm hr
  split
  · next hneg =>
    rw [hneg] at hread
    rw [List.cons_append, read?, hread]
    rfl
  · next hneg =>
    obtain ⟨d, cs, rfl, hd⟩ := hm.exists_cons
    rw [Bool.not_eq_true] at hneg
    rw [hneg, List.cons_append] at hread
    rw [List.cons_append, read?_of_isDigit hd, hread]
    rfl

theorem read?_string {text : Option String} {cs rest : List Char} (h : StringWritten text cs) :
    read? (cs ++ rest) = some (.string text, rest) := by
  obtain ⟨ms, body, -, rfl, -⟩ := id h
  rw [List.cons_append, read?, readString_iff.mpr ⟨_, h, rfl⟩]
  rfl

theorem read?_append {t : Token} {w rest : List Char} (ht : t.Written w)
    (hr : t.isNumber = true → EndsNumeral rest) : read? (w ++ rest) = some (t, rest) := by
  cases ht with
  | number hn => exact read?_numeral hn (hr rfl)
  | string hs => exact read?_string hs
  | _ => rfl

theorem exists_cons_of_written {t : Token} {w : List Char} (ht : t.Written w) :
    ∃ c w', w = c :: w' ∧ isSpace c = false := by
  cases ht with
  | number hn =>
    obtain ⟨m, hm, rfl⟩ := hn
    obtain ⟨d, cs, rfl, hd⟩ := hm.exists_cons
    split
    · exact ⟨_, _, rfl, rfl⟩
    · exact ⟨d, cs, rfl, isSpace_of_isDigit hd⟩
  | string hs =>
    obtain ⟨ms, body, -, rfl, -⟩ := hs
    exact ⟨_, _, rfl, rfl⟩
  | _ => exact ⟨_, _, rfl, rfl⟩

theorem eq_append_of_afterWord? {word cs rest : List Char} (h : afterWord? word cs = some rest) :
    cs = word ++ rest := by
  rw [afterWord?] at h
  split at h
  · next hp =>
    obtain ⟨tail, rfl⟩ := List.isPrefixOf_iff_prefix.mp hp
    simpa using h
  · cases h

theorem written_of_read? {cs rest : List Char} {t : Token} (h : read? cs = some (t, rest)) :
    ∃ w, t.Written w ∧ cs = w ++ rest := by
  unfold read? at h
  split at h
  · cases h
  · split at h
    -- Words, a string, numerals with and without a sign, and last the single marks.
    case h_7 | h_8 | h_9 =>
      obtain ⟨after, hw, he⟩ := Option.map_eq_some_iff.mp h
      cases he
      rw [eq_append_of_afterWord? hw]
      first | exact ⟨_, .null, rfl⟩ | exact ⟨_, .true, rfl⟩ | exact ⟨_, .false, rfl⟩
    case h_10 =>
      obtain ⟨⟨text, after⟩, hs, he⟩ := Option.map_eq_some_iff.mp h
      cases he
      obtain ⟨w, hw, rfl⟩ := readString_iff.mp hs
      exact ⟨_, .string hw, rfl⟩
    case h_11 =>
      obtain ⟨⟨n, after⟩, hn, he⟩ := Option.map_eq_some_iff.mp h
      cases he
      obtain ⟨hneg, w, hw, rfl⟩ := numeral_of_readNumeral hn
      exact ⟨_, .number ⟨w, hw, (if_pos hneg).symm⟩, rfl⟩
    case h_12 =>
      obtain ⟨⟨n, after⟩, hn, he⟩ := Option.map_eq_some_iff.mp h
      cases he
      obtain ⟨hneg, w, hw, hcs⟩ := numeral_of_readNumeral hn
      exact ⟨w, .number ⟨w, hw, (if_neg (by simp [hneg])).symm⟩, hcs⟩
    all_goals
      cases h
      first
      | exact ⟨_, .beginObject, rfl⟩
      | exact ⟨_, .endObject, rfl⟩
      | exact ⟨_, .beginArray, rfl⟩
      | exact ⟨_, .endArray, rfl⟩
      | exact ⟨_, .colon, rfl⟩
      | exact ⟨_, .comma, rfl⟩

/-! ## Texts -/

/-- Tokens one after the other, with blanks anywhere between them. -/
inductive AllWritten : List Token → List Char → Prop
  | nil : AllWritten [] []
  | space {c : Char} {ts : List Token} {cs : List Char} :
    isSpace c = true → AllWritten ts cs → AllWritten ts (c :: cs)
  | token {t : Token} {w : List Char} {ts : List Token} {cs : List Char} :
    Written t w → AllWritten ts cs → AllWritten (t :: ts) (w ++ cs)

/-- What stands behind an item of an array or a member of an object. -/
def IsEnd (t : Token) : Prop := t = .comma ∨ t = .endArray ∨ t = .endObject

/-- Behind a numeral there is the end of an item or a member, or nothing more. -/
def Separated (ts : List Token) : Prop :=
  ts.IsChain fun t u => t.isNumber = true → u.IsEnd

theorem Separated.cons {t : Token} {ts : List Token} (ht : t.isNumber = false)
    (h : Separated ts) : Separated (t :: ts) :=
  List.isChain_cons.mpr ⟨fun _ _ hn => absurd (ht.symm.trans hn) Bool.false_ne_true, h⟩

namespace AllWritten

variable {ts : List Token} {cs rest : List Char}

theorem mark {t : Token} {c : Char} (ht : t.Written [c]) (h : AllWritten ts rest) :
    AllWritten (t :: ts) (c :: rest) :=
  .token ht h

theorem spaces (hs : ∀ c ∈ cs, isSpace c = true) (h : AllWritten ts rest) :
    AllWritten ts (cs ++ rest) := by
  induction cs with
  | nil => exact h
  | cons c cs ih =>
    rw [List.forall_mem_cons] at hs
    exact .space hs.1 (ih hs.2)

theorem endsNumeral (h : AllWritten ts cs) (ht : ∀ t ∈ ts.head?, t.IsEnd) : EndsNumeral cs := by
  cases h with
  | nil => exact endsNumeral_nil
  | space hc _ =>
    refine endsNumeral_cons ?_ _
    rcases isSpace_iff.mp hc with rfl | rfl | rfl | rfl <;> decide
  | token hw _ =>
    rcases ht _ rfl with rfl | rfl | rfl <;> cases hw <;> exact endsNumeral_cons (by decide) _

theorem readAll (h : AllWritten ts cs) (hs : Separated ts) (done : List Token) {fuel : Nat}
    (hf : cs.length ≤ fuel) : readAll done fuel cs = some (done.reverse ++ ts) := by
  induction h generalizing done fuel with
  | nil => cases fuel <;> simp [Token.readAll]
  | space hc _ ih =>
    obtain _ | fuel := fuel
    · simp at hf
    · rw [Token.readAll, if_pos hc]
      exact ih hs done (by simpa using hf)
  | @token t w ts cs hw h ih =>
    obtain ⟨hd, hs⟩ := List.isChain_cons.mp hs
    have hr := read?_append hw fun hn => h.endsNumeral fun u hu => hd u hu hn
    obtain ⟨c, w, rfl, hc⟩ := exists_cons_of_written hw
    obtain _ | fuel := fuel
    · simp at hf
    · rw [List.cons_append] at hr ⊢
      rw [Token.readAll, if_neg (Bool.not_eq_true _ ▸ hc), hr]
      simp only
      rw [ih hs _ (by simp at hf; omega)]
      simp

/-- Tokens are read from a text in which they are written. -/
theorem ofText? (h : AllWritten ts cs) (hs : Separated ts) : ofText? cs = some ts :=
  h.readAll hs [] (Nat.le_refl _)

end AllWritten

theorem allWritten_of_readAll {done ts : List Token} {fuel : Nat} {cs : List Char}
    (h : readAll done fuel cs = some ts) : ∃ us, AllWritten us cs ∧ ts = done.reverse ++ us := by
  fun_induction readAll done fuel cs with
  | case1 done fuel =>
    cases h
    exact ⟨[], .nil, by simp⟩
  | case2 => cases h
  | case3 done fuel c rest hc ih =>
    obtain ⟨us, hus, rfl⟩ := ih h
    exact ⟨us, .space hc hus, rfl⟩
  | case4 done fuel c cs hc t rest hr ih =>
    obtain ⟨us, hus, rfl⟩ := ih h
    obtain ⟨w, hw, hcs⟩ := written_of_read? hr
    exact ⟨t :: us, hcs ▸ .token hw hus, by simp⟩
  | case5 => cases h

theorem allWritten_of_ofText? {cs : List Char} {ts : List Token} (h : ofText? cs = some ts) :
    AllWritten ts cs := by
  obtain ⟨us, hus, rfl⟩ := allWritten_of_readAll h
  exact hus

/-! ## Quoted text -/

theorem hexDigit?_hexChar : ∀ n < 16, hexDigit? (hexChar n) = some n := by decide

theorem exists_mark_escape (c : Char) : ∃ m, Mark.Written m (escape c) ∧
    ∀ ms, Mark.text? (m :: ms) = (Mark.text? ms).map (c :: ·) := by
  have hl : ∀ {e : Char}, escaped? e = some c → ∃ m, Mark.Written m ['\\', e] ∧
      ∀ ms, Mark.text? (m :: ms) = (Mark.text? ms).map (c :: ·) :=
    fun he => ⟨.char c, .letter he, fun _ => rfl⟩
  unfold escape
  split_ifs with h₁ h₂ h₃ h₄ h₅ h₆ h₇ h₈
  · exact hl (by rw [h₁]; rfl)
  · exact hl (by rw [h₂]; rfl)
  · exact hl (by rw [h₃]; rfl)
  · exact hl (by rw [h₄]; rfl)
  · exact hl (by rw [h₅]; rfl)
  · exact hl (by rw [h₆]; rfl)
  · exact hl (by rw [h₇]; rfl)
  · have hz : hexDigit? '0' = some 0 := rfl
    have hu := hexDigit?_hexChar (c.toNat / 16) (by omega)
    have hv := hexDigit?_hexChar (c.toNat % 16) (by omega)
    refine ⟨_, .unit hz hz hu hv, fun ms => ?_⟩
    have he : ((0 * 16 + 0) * 16 + c.toNat / 16) * 16 + c.toNat % 16 = c.toNat := by omega
    rw [he, Mark.text?.eq_def]
    simp only
    rw [if_neg fun h => by have := h.1; omega, if_neg fun h => by have := h.1; omega,
      Char.ofNat_toNat]
  · exact ⟨.char c, .plain h₁ h₂ (Nat.not_lt.mp h₈), fun _ => rfl⟩

theorem stringWritten_quote (s : String) : StringWritten (some s) (quote s) := by
  have h : ∀ cs : List Char, ∃ ms, Mark.AllWritten ms (cs.flatMap escape) ∧
      Mark.text? ms = some cs := by
    intro cs
    induction cs with
    | nil => exact ⟨[], .nil, rfl⟩
    | cons c cs ih =>
      obtain ⟨ms, hms, ht⟩ := ih
      obtain ⟨m, hm, hc⟩ := exists_mark_escape c
      exact ⟨m :: ms, .cons hm hms, by rw [hc, ht]; rfl⟩
  obtain ⟨ms, hms, ht⟩ := h s.toList
  exact ⟨ms, _, hms, rfl, by rw [ht]; simp⟩

theorem AllWritten.quote (s : String) {ts : List Token} {rest : List Char}
    (h : AllWritten ts rest) : AllWritten (.string (some s) :: ts) (quote s ++ rest) :=
  .token (.string (stringWritten_quote s)) h

/-! ## Written integers -/

theorem written_intChars (n : Int) : (Numeral.ofInt n).Written (intChars n) := by
  refine ⟨digitChars n.natAbs, magnitudeWritten_digitChars _ _, ?_⟩
  simp [intChars, Numeral.ofInt]

theorem AllWritten.int (n : Int) {ts : List Token} {rest : List Char} (h : AllWritten ts rest) :
    AllWritten (.number (.ofInt n) :: ts) (intChars n ++ rest) :=
  .token (.number (written_intChars n)) h

end AuditTrail.Json.Token
