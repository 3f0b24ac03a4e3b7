import AuditTrail.Json.Token

/-! # Reading numerals

How a numeral is written, and that one is read at the front of a text if and only if it is written
there and does not go on. The digits of an integer are a numeral, which stands for the integer
again as long as it fits 64 bits.
-/

namespace AuditTrail

namespace Decimal

theorem collect_eq (ds : List Nat) (c : Collected)
    (h : ds.foldl (fun n d => n * 10 + d) c.significand < Nat.pow 2 64) :
    collect c ds = ⟨ds.foldl (fun n d => n * 10 + d) c.significand, c.count + ds.length⟩ := by
  induction ds generalizing c with
  | nil => rfl
  | cons d ds ih =>
    have hm : ∀ (ds : List Nat) (n : Nat), n ≤ ds.foldl (fun n d => n * 10 + d) n := by
      intro ds
      induction ds with
      | nil => exact fun n => Nat.le_refl n
      | cons d ds ih => exact fun n => Nat.le_trans (by omega) (ih (n * 10 + d))
    have hd : c.significand * 10 + d < Nat.pow 2 64 := Nat.lt_of_le_of_lt (hm ds _) h
    rw [collect, if_pos hd, ih _ h, List.foldl_cons, List.length_cons]
    simp only [Nat.add_assoc, Nat.add_comm 1]

end Decimal

namespace Json

/-! ## Digits -/

/-- The digits of a number as numbers below ten. -/
def digitValues (n : Nat) : List Nat := (digitChars n).map fun c => c.toNat - '0'.toNat

theorem digitChars_eq (n : Nat) : digitChars n = Nat.toDigits 10 n := Nat.toList_repr

theorem isDigit_of_mem_digitChars {n : Nat} {c : Char} (h : c ∈ digitChars n) :
    c.isDigit = true := by
  rw [digitChars_eq] at h
  exact Nat.isDigit_of_mem_toDigits (by decide) (by decide) h

theorem digitChars_ne_nil (n : Nat) : digitChars n ≠ [] := by
  rw [digitChars_eq]
  exact Nat.toDigits_ne_nil

theorem ofDigits_digitValues (n : Nat) :
    (digitValues n).foldl (fun n d => n * 10 + d) 0 = n := by
  have h := Nat.ofDigitChars_ten_toDigits (n := n)
  rw [Nat.ofDigitChars_eq_foldl, ← digitChars_eq] at h
  rw [digitValues, List.foldl_map]
  simpa only [Nat.mul_comm 10] using h

theorem head?_digitChars {n : Nat} (h : 0 < n) : (digitChars n).head? ≠ some '0' := by
  rw [digitChars_eq]
  induction n using Nat.strongRecOn with
  | ind n ih =>
    rw [Nat.toDigits_eq_if (by decide)]
    split
    · next hn =>
      have hd : ∀ m < 10, 0 < m → Nat.digitChar m ≠ '0' := by decide
      simpa using hd n hn h
    · next hn =>
      rw [List.head?_append, Option.or_of_isSome (by simp)]
      exact ih (n / 10) (by omega) (by omega)

/-! ## Numerals as written -/

/-- What may follow a numeral without being a part of it. -/
def EndsNumeral (rest : List Char) : Prop :=
  ∀ c ∈ rest.head?, c.isDigit = false ∧ c ≠ '.' ∧ c ≠ 'e' ∧ c ≠ 'E'

theorem endsNumeral_nil : EndsNumeral [] := nofun

theorem endsNumeral_cons {c : Char} (h : c.isDigit = false ∧ c ≠ '.' ∧ c ≠ 'e' ∧ c ≠ 'E')
    (rest : List Char) : EndsNumeral (c :: rest) := by
  rintro d ⟨⟩
  exact h

/-- One or more digits, as numbers below ten and as written. -/
structure DigitsWritten (ds : List Nat) (cs : List Char) : Prop where
  ne_nil : cs ≠ []
  isDigit : ∀ c ∈ cs, c.isDigit = true
  values : ds = cs.map fun c => c.toNat - '0'.toNat

theorem DigitsWritten.exists_cons {ds : List Nat} {cs : List Char} (h : DigitsWritten ds cs) :
    ∃ d ds' c cs', ds = d :: ds' ∧ cs = c :: cs' ∧ c.isDigit = true := by
  obtain ⟨c, cs', rfl⟩ := List.exists_cons_of_ne_nil h.ne_nil
  exact ⟨_, _, c, cs', h.values, rfl, h.isDigit c List.mem_cons_self⟩

theorem digitsWritten_digitChars (n : Nat) : DigitsWritten (digitValues n) (digitChars n) :=
  ⟨digitChars_ne_nil n, fun _ => isDigit_of_mem_digitChars, rfl⟩

namespace Numeral

/-- Digits before the point; a leading zero stands alone. -/
structure WholeWritten (ds : List Nat) (cs : List Char) : Prop where
  digits : DigitsWritten ds cs
  zero : cs.head? = some '0' → cs = ['0']

/-- A point with digits after it, if there is one. -/
inductive FractionWritten : List Nat → List Char → Prop
  | none : FractionWritten [] []
  | digits {ds : List Nat} {cs : List Char} : DigitsWritten ds cs → FractionWritten ds ('.' :: cs)

/-- The sign of an exponent, and whether it is negative. -/
inductive SignWritten : Bool → List Char → Prop
  | none : SignWritten false []
  | plus : SignWritten false ['+']
  | minus : SignWritten true ['-']

/-- The letter `e` with a sign and digits after it, if there is one. -/
inductive ExponentWritten : Option (Bool × List Nat) → List Char → Prop
  | none : ExponentWritten none []
  | digits {e : Char} {negative : Bool} {sign cs : List Char} {ds : List Nat} :
    e = 'e' ∨ e = 'E' → SignWritten negative sign → DigitsWritten ds cs →
    ExponentWritten (some (negative, ds)) (e :: (sign ++ cs))

/-- How a numeral is written after its sign. -/
inductive MagnitudeWritten : Numeral → List Char → Prop
  | mk {negative : Bool} {whole fraction : List Nat} {exponent : Option (Bool × List Nat)}
    {w f e : List Char} : WholeWritten whole w → FractionWritten fraction f →
    ExponentWritten exponent e →
    MagnitudeWritten { negative, whole, fraction, exponent } (w ++ (f ++ e))

theorem MagnitudeWritten.exists_cons {n : Numeral} {cs : List Char} (h : n.MagnitudeWritten cs) :
    ∃ c cs', cs = c :: cs' ∧ c.isDigit = true := by
  obtain ⟨hw, -, -⟩ := h
  obtain ⟨-, -, c, cs, -, rfl, hc⟩ := hw.digits.exists_cons
  exact ⟨c, _, rfl, hc⟩

/-- How a numeral is written. -/
def Written (n : Numeral) (cs : List Char) : Prop :=
  ∃ m, MagnitudeWritten n m ∧ cs = if n.negative then '-' :: m else m

end Numeral

/-! ## Reading numerals -/

namespace Token

open Numeral

theorem readDigits_append {ds : List Nat} {cs rest : List Char} (hd : DigitsWritten ds cs)
    (hr : ∀ c ∈ rest.head?, c.isDigit = false) : readDigits (cs ++ rest) = (ds, rest) := by
  have ht : rest.takeWhile Char.isDigit = [] := by
    cases rest with
    | nil => rfl
    | cons c rest => simp [hr c rfl]
  have hw : rest.dropWhile Char.isDigit = rest := by
    cases rest with
    | nil => rfl
    | cons c rest => simp [hr c rfl]
  rw [readDigits, List.takeWhile_append_of_pos hd.isDigit,
    List.dropWhile_append_of_pos hd.isDigit, ht, hw, List.append_nil, hd.values]

theorem digits_of_readDigits {ds : List Nat} {cs rest : List Char}
    (h : readDigits cs = (ds, rest)) (hd : ds ≠ []) :
    ∃ w, DigitsWritten ds w ∧ cs = w ++ rest := by
  obtain ⟨rfl, rfl⟩ := Prod.mk.inj h
  refine ⟨cs.takeWhile Char.isDigit, ⟨?_, ?_, rfl⟩, List.takeWhile_append_dropWhile.symm⟩
  · intro hn
    simp [hn] at hd
  · exact List.all_eq_true.mp List.all_takeWhile

theorem readFraction_append {ds : List Nat} {cs rest : List Char} (h : FractionWritten ds cs)
    (hr : ∀ c ∈ rest.head?, c.isDigit = false ∧ c ≠ '.') :
    readFraction (cs ++ rest) = (ds, rest) := by
  cases h with
  | none =>
    rw [List.nil_append, readFraction.eq_def]
    split
    · exact absurd rfl (hr '.' rfl).2
    · rfl
  | digits hd =>
    obtain ⟨d, ds, c, cs, rfl, rfl, -⟩ := hd.exists_cons
    simp only [List.cons_append, readFraction]
    rw [← List.cons_append, readDigits_append hd fun c hc => (hr c hc).1]

theorem fraction_of_readFraction {ds : List Nat} {cs rest : List Char}
    (h : readFraction cs = (ds, rest)) : ∃ w, FractionWritten ds w ∧ cs = w ++ rest := by
  unfold readFraction at h
  split at h
  · split at h
    · cases h
      exact ⟨[], .none, rfl⟩
    · next hd =>
      obtain ⟨w, hw, rfl⟩ := digits_of_readDigits h fun hn => hd rest (by rw [h, hn])
      exact ⟨'.' :: w, .digits hw, rfl⟩
  · cases h
    exact ⟨[], .none, rfl⟩

theorem readSign_append {negative : Bool} {sign cs rest : List Char} {ds : List Nat}
    (hs : SignWritten negative sign) (hd : DigitsWritten ds cs) :
    readSign (sign ++ (cs ++ rest)) = (negative, cs ++ rest) := by
  cases hs with
  | none =>
    obtain ⟨d, ds, c, cs, rfl, rfl, hc⟩ := hd.exists_cons
    rw [List.nil_append, List.cons_append]
    unfold readSign
    split
    · next he => exact absurd hc (by rw [(List.cons.inj he).1]; decide)
    · next he => exact absurd hc (by rw [(List.cons.inj he).1]; decide)
    · rfl
  | plus => rfl
  | minus => rfl

theorem sign_readSign (cs : List Char) :
    ∃ w, SignWritten (readSign cs).1 w ∧ cs = w ++ (readSign cs).2 := by
  unfold readSign
  split
  · exact ⟨['+'], .plus, rfl⟩
  · exact ⟨['-'], .minus, rfl⟩
  · exact ⟨[], .none, rfl⟩

theorem readExponent_append {exponent : Option (Bool × List Nat)} {cs rest : List Char}
    (h : ExponentWritten exponent cs) (hr : EndsNumeral rest) :
    readExponent (cs ++ rest) = (exponent, rest) := by
  cases h with
  | none =>
    rw [List.nil_append, readExponent.eq_def]
    split
    · exact absurd rfl (hr 'e' rfl).2.2.1
    · exact absurd rfl (hr 'E' rfl).2.2.2
    · rfl
  | @digits e negative sign cs ds he hs hd =>
    have hr := readDigits_append hd fun c hc => (hr c hc).1
    obtain ⟨d, ds, c, cs, rfl, rfl, -⟩ := hd.exists_cons
    rcases he with rfl | rfl <;>
      simp only [List.cons_append, List.append_assoc, readExponent] <;>
      rw [← List.cons_append, readSign_append hs hd, hr]

theorem exponent_of_readDigits {e : Char} (he : e = 'e' ∨ e = 'E') {ds : List Nat}
    {cs rest : List Char} (h : readDigits (readSign cs).2 = (ds, rest)) (hd : ds ≠ []) :
    ∃ w, ExponentWritten (some ((readSign cs).1, ds)) w ∧ e :: cs = w ++ rest := by
  obtain ⟨s, hs, hcs⟩ := sign_readSign cs
  obtain ⟨w, hw, ha⟩ := digits_of_readDigits h hd
  refine ⟨e :: (s ++ w), .digits he hs hw, ?_⟩
  rw [List.cons_append, List.append_assoc, ← ha, ← hcs]

theorem exponent_of_readExponent {exponent : Option (Bool × List Nat)} {cs rest : List Char}
    (h : readExponent cs = (exponent, rest)) :
    ∃ w, ExponentWritten exponent w ∧ cs = w ++ rest := by
  unfold readExponent at h
  split at h
  · split at h <;> cases h
    · exact ⟨[], .none, rfl⟩
    · next hd h => exact exponent_of_readDigits (.inl rfl) h hd
  · split at h <;> cases h
    · exact ⟨[], .none, rfl⟩
    · next hd h => exact exponent_of_readDigits (.inr rfl) h hd
  · cases h
    exact ⟨[], .none, rfl⟩

/-- A numeral is read after its sign as it is written, if what follows is no part of it. -/
theorem readNumeral_append {n : Numeral} {cs rest : List Char} (h : n.MagnitudeWritten cs)
    (hr : EndsNumeral rest) : readNumeral n.negative (cs ++ rest) = some (n, rest) := by
  obtain @⟨negative, whole, fraction, exponent, w, f, e, hw, hf, he⟩ := h
  have hre : ∀ c ∈ (e ++ rest).head?, c.isDigit = false ∧ c ≠ '.' := by
    cases he with
    | none => exact fun c hc => ⟨(hr c hc).1, (hr c hc).2.1⟩
    | digits he =>
      rintro c ⟨⟩
      rcases he with rfl | rfl <;> decide
  have hrf : ∀ c ∈ (f ++ (e ++ rest)).head?, c.isDigit = false := by
    cases hf with
    | none => exact fun c hc => (hre c hc).1
    | digits =>
      rintro c ⟨⟩
      decide
  have hread := readDigits_append hw.digits hrf
  obtain ⟨d, ds, c, cs, rfl, rfl, -⟩ := hw.digits.exists_cons
  rw [List.append_assoc, List.append_assoc, List.cons_append]
  unfold readNumeral
  split
  next whole after hm =>
  have hm : (whole, after) = (d :: ds, f ++ (e ++ rest)) := by
    rw [← hm]
    split
    · next hz =>
      obtain ⟨rfl, rfl⟩ := List.cons.inj hz
      obtain ⟨-, rfl⟩ := List.cons.inj (hw.zero rfl)
      rw [hw.digits.values]
      rfl
    · exact hread
  obtain ⟨rfl, rfl⟩ := Prod.mk.inj hm
  simp only [readFraction_append hf hre, readExponent_append he hr]

/-- What is read as a numeral is written so. -/
theorem numeral_of_readNumeral {negative : Bool} {n : Numeral} {cs rest : List Char}
    (h : readNumeral negative cs = some (n, rest)) :
    n.negative = negative ∧ ∃ w, n.MagnitudeWritten w ∧ cs = w ++ rest := by
  unfold readNumeral at h
  split at h
  next whole after hm =>
  split at h
  · cases h
  · next hne =>
    have hw : ∃ w, WholeWritten whole w ∧ cs = w ++ after := by
      split at hm
      · obtain ⟨rfl, rfl⟩ := Prod.mk.inj hm
        have hz : ∀ c ∈ ['0'], c.isDigit = true := fun c hc => by
          rw [List.mem_singleton.mp hc]
          decide
        exact ⟨['0'], ⟨⟨List.cons_ne_nil _ _, hz, rfl⟩, fun _ => rfl⟩, rfl⟩
      · next hz =>
        obtain ⟨w, hw, rfl⟩ := digits_of_readDigits hm hne
        refine ⟨w, ⟨hw, fun h => ?_⟩, rfl⟩
        obtain ⟨w', rfl⟩ := List.head?_eq_some_iff.mp h
        exact absurd rfl (hz (w' ++ after))
    obtain ⟨w, hw, rfl⟩ := hw
    rcases hf : readFraction after with ⟨fraction, afterFraction⟩
    rcases he : readExponent afterFraction with ⟨exponent, afterExponent⟩
    simp only [hf, he] at h
    cases h
    obtain ⟨f, hfw, rfl⟩ := fraction_of_readFraction hf
    obtain ⟨e, hew, rfl⟩ := exponent_of_readExponent he
    exact ⟨rfl, w ++ (f ++ e), .mk hw hfw hew, by simp only [List.append_assoc]⟩

theorem magnitudeWritten_digitChars (negative : Bool) (n : Nat) :
    MagnitudeWritten { negative, whole := digitValues n } (digitChars n) := by
  have hz : (digitChars n).head? = some '0' → digitChars n = ['0'] := by
    rcases Nat.eq_zero_or_pos n with rfl | hn
    · exact fun _ => digitChars_eq 0
    · exact fun h => absurd h (head?_digitChars hn)
  have h : MagnitudeWritten { negative, whole := digitValues n } (digitChars n ++ ([] ++ [])) :=
    .mk ⟨digitsWritten_digitChars n, hz⟩ .none .none
  simpa using h

end Token

/-! ## Integers -/

/-- An integer that fits 64 bits, signed or unsigned. -/
def Number.IsInteger : Number → Prop
  | .int n => -(Nat.pow 2 63 : Int) ≤ n ∧ n < (Nat.pow 2 64 : Int)
  | .float _ => False

/-- The numeral that is written for an integer. -/
def Numeral.ofInt (n : Int) : Numeral where
  negative := decide (n < 0)
  whole := digitValues n.natAbs

theorem Numeral.number?_ofInt {n : Int} (h : (Number.int n).IsInteger) :
    (Numeral.ofInt n).number? = some (.int n) := by
  obtain ⟨hl, hu⟩ := h
  have hp : Nat.pow 2 64 = 2 * Nat.pow 2 63 := rfl
  have hb : n.natAbs < Nat.pow 2 64 := by omega
  have hc := Decimal.collect_eq (digitValues n.natAbs) ⟨0, 0⟩
  simp only [ofDigits_digitValues, Nat.zero_add] at hc
  simp only [number?, ofInt, isInteger, List.isEmpty_nil, Option.isNone_none, Bool.and_self,
    hc hb, beq_self_eq_true, Bool.true_and]
  rw [if_pos]
  · by_cases hn : n < 0
    · simp only [hn, decide_true, if_true]
      congr 2
      omega
    · simp only [hn, decide_false, Bool.false_eq_true, if_false]
      congr 2
      omega
  · by_cases hn : n < 0
    · simp only [hn, decide_true, Bool.not_true, Bool.false_or, Bool.and_eq_true,
        decide_eq_true_eq]
      omega
    · simp only [hn, decide_false, Bool.not_false, Bool.true_or]

end Json

end AuditTrail
