import AuditTrail.Json.Token
import Mathlib.Tactic.SplitIfs

/-! # Strings as written

Between its quotes a string is written as marks: characters as they are, letters after a backslash,
and units of UTF-16. Marks have a text if each first half of a surrogate pair is followed by a
second half and there are no other halves. A string is read if and only if it is written as marks,
and then its text is theirs.
-/

namespace AuditTrail.Json

open Token (escaped? hexDigit?)

/-- What one piece of a string stands for. -/
inductive Mark
  | char (c : Char)
  /-- A unit of UTF-16. -/
  | unit (n : Nat)

namespace Mark

/-- How a mark is written. -/
inductive Written : Mark → List Char → Prop
  | plain {c : Char} : c ≠ '"' → c ≠ '\\' → 0x20 ≤ c.toNat → Written (.char c) [c]
  | letter {e c : Char} : escaped? e = some c → Written (.char c) ['\\', e]
  | unit {a b c d : Char} {w x y z : Nat} : hexDigit? a = some w → hexDigit? b = some x →
    hexDigit? c = some y → hexDigit? d = some z →
    Written (.unit (((w * 16 + x) * 16 + y) * 16 + z)) ['\\', 'u', a, b, c, d]

/-- Marks one after the other. -/
inductive AllWritten : List Mark → List Char → Prop
  | nil : AllWritten [] []
  | cons {m : Mark} {w : List Char} {ms : List Mark} {cs : List Char} :
    Written m w → AllWritten ms cs → AllWritten (m :: ms) (w ++ cs)

/-- The first half of a surrogate pair. -/
def IsHigh (n : Nat) : Prop := 0xD800 ≤ n ∧ n ≤ 0xDBFF

/-- The second half of a surrogate pair. -/
def IsLow (n : Nat) : Prop := 0xDC00 ≤ n ∧ n ≤ 0xDFFF

instance (n : Nat) : Decidable (IsHigh n) := inferInstanceAs (Decidable (_ ∧ _))

instance (n : Nat) : Decidable (IsLow n) := inferInstanceAs (Decidable (_ ∧ _))

/-- The characters that marks stand for, if no half of a surrogate pair is without the other. -/
def text? : List Mark → Option (List Char)
  | [] => some []
  | .char c :: ms => (text? ms).map (c :: ·)
  | .unit n :: ms =>
    if IsHigh n then
      match ms with
      | .unit low :: ms =>
        if IsLow low then
          (text? ms).map (Char.ofNat (0x10000 + (n - 0xD800) * 0x400 + (low - 0xDC00)) :: ·)
        else none
      | _ => none
    else if IsLow n then none
    else (text? ms).map (Char.ofNat n :: ·)

end Mark

namespace Token

namespace Quoted

/-- Takes what a mark stands for. -/
def take (q : Quoted) : Mark → Quoted
  | .char c => q.char c
  | .unit n => q.unit n

@[simp] theorem take_char (q : Quoted) (c : Char) : q.take (.char c) = q.char c := rfl

@[simp] theorem take_unit (q : Quoted) (n : Nat) : q.take (.unit n) = q.unit n := rfl

theorem unit_of_isHigh {n : Nat} (h : Mark.IsHigh n) (q : Quoted) :
    q.unit n = { q with half := some n, broken := q.broken || q.half.isSome } := by
  rw [unit, if_pos (by simpa [Mark.IsHigh] using h)]

theorem unit_of_isLow {n : Nat} (h : Mark.IsLow n) (q : Quoted) :
    q.unit n = q.half.elim { q with broken := true } fun high =>
      { q with
        done := Char.ofNat (0x10000 + (high - 0xD800) * 0x400 + (n - 0xDC00)) :: q.done
        half := none } := by
  rw [unit, if_neg (by simp [Mark.IsLow] at h ⊢; omega), if_pos (by simpa [Mark.IsLow] using h)]
  cases q.half <;> rfl

theorem unit_of_not {n : Nat} (hh : ¬ Mark.IsHigh n) (hl : ¬ Mark.IsLow n) (q : Quoted) :
    q.unit n = q.char (Char.ofNat n) := by
  rw [unit, if_neg (by simpa [Mark.IsHigh] using hh), if_neg (by simpa [Mark.IsLow] using hl)]

/-- Nothing that follows makes up for an unpaired half. -/
theorem broken_take {q : Quoted} (h : q.broken = true) (m : Mark) : (q.take m).broken = true := by
  cases m with
  | char c => simp [take, char, h]
  | unit n =>
    by_cases hh : Mark.IsHigh n
    · simp [take, unit_of_isHigh hh, h]
    · by_cases hl : Mark.IsLow n
      · rw [take, unit_of_isLow hl]
        cases q.half <;> simp [h]
      · simp [take, unit_of_not hh hl, char, h]

theorem text?_of_broken {q : Quoted} (h : q.broken = true) (ms : List Mark) :
    (ms.foldl take q).text? = none := by
  induction ms generalizing q with
  | nil => simp [text?, h]
  | cons m ms ih => exact ih (broken_take h m)

/-- A first half that no second half follows stays unpaired. -/
theorem text?_of_half {q : Quoted} (h : q.half.isSome = true) {ms : List Mark}
    (hms : ∀ m ∈ ms.head?, ∀ n, m = .unit n → ¬ Mark.IsLow n) :
    (ms.foldl take q).text? = none := by
  cases ms with
  | nil => simp [text?, h]
  | cons m ms =>
    refine text?_of_broken ?_ ms
    cases m with
    | char c => simp [take, char, h]
    | unit n =>
      have hl : ¬ Mark.IsLow n := hms _ rfl n rfl
      by_cases hh : Mark.IsHigh n
      · simp [take, unit_of_isHigh hh, h]
      · simp [take, unit_of_not hh hl, char, h]

theorem text?_foldl_take (ms : List Mark) {q : Quoted} (hh : q.half = none)
    (hb : q.broken = false) :
    (ms.foldl take q).text? =
      (Mark.text? ms).map fun cs => String.ofList (q.done.reverse ++ cs) := by
  fun_induction Mark.text? ms generalizing q with
  | case1 => simp [text?, hh, hb]
  | case2 c ms ih =>
    rw [List.foldl_cons, take_char, ih rfl (by simp [char, hh, hb])]
    simp [char, Function.comp_def]
  | case3 n hn low ms hl ih =>
    have hq : (q.unit n).unit low =
        q.char (Char.ofNat (0x10000 + (n - 0xD800) * 0x400 + (low - 0xDC00))) := by
      rw [unit_of_isHigh hn, unit_of_isLow hl]
      simp [char, hh]
    rw [List.foldl_cons, List.foldl_cons, take_unit, take_unit, hq,
      ih rfl (by simp [char, hh, hb])]
    simp [char, Function.comp_def]
  | case4 n hn low ms hl =>
    refine text?_of_half (q := q.unit n) (by rw [unit_of_isHigh hn]; rfl) ?_
    rintro m ⟨⟩ k ⟨⟩
    exact hl
  | case5 n ms hn hms =>
    refine text?_of_half (q := q.unit n) (by rw [unit_of_isHigh hn]; rfl) ?_
    rintro m hm k rfl
    obtain ⟨ms', rfl⟩ := List.head?_eq_some_iff.mp hm
    exact absurd rfl (hms k ms')
  | case6 n ms hn hl =>
    refine text?_of_broken (q := q.unit n) ?_ ms
    rw [unit_of_isLow hl, hh, Option.elim_none]
  | case7 n ms hn hl ih =>
    rw [List.foldl_cons, take_unit, unit_of_not hn hl, ih rfl (by simp [char, hh, hb])]
    simp [char, Function.comp_def]

end Quoted

/-! ## Reading -/

theorem readString_mark {m : Mark} {w : List Char} (h : m.Written w) (q : Quoted)
    (rest : List Char) : readString q .plain (w ++ rest) = readString (q.take m) .plain rest := by
  cases h with
  | plain hq hs hc => simp [readString, hq, hs, Nat.not_lt.mpr hc, Quoted.take]
  | @letter e c he =>
    have hu : e ≠ 'u' := by
      rintro rfl
      cases he
    simp [readString, hu, he, Quoted.take]
  | unit ha hb hc hd => simp [readString, ha, hb, hc, hd, Quoted.take]

theorem readString_marks {ms : List Mark} {cs : List Char} (h : Mark.AllWritten ms cs)
    (q : Quoted) (rest : List Char) :
    readString q .plain (cs ++ '"' :: rest) = some ((ms.foldl Quoted.take q).text?, rest) := by
  induction h generalizing q with
  | nil => simp [readString]
  | cons hm _ ih => rw [List.append_assoc, readString_mark hm, ih, List.foldl_cons]

theorem eq_cons_of_readString {q : Quoted} {mode : Mode} {cs : List Char}
    {r : Option String × List Char} (h : readString q mode cs = some r) :
    ∃ c rest, cs = c :: rest := by
  cases cs with
  | nil => simp [readString] at h
  | cons c rest => exact ⟨c, rest, rfl⟩

theorem readString_digit {q : Quoted} {code missing : Nat} {cs : List Char}
    {r : Option String × List Char} (h : readString q (.unit code missing) cs = some r) :
    ∃ c d rest, cs = c :: rest ∧ hexDigit? c = some d ∧
      (if missing ≤ 1 then readString (q.unit (code * 16 + d)) .plain rest
        else readString q (.unit (code * 16 + d) (missing - 1)) rest) = some r := by
  obtain ⟨c, rest, rfl⟩ := eq_cons_of_readString h
  rw [readString] at h
  split at h
  · cases h
  · next d hd => exact ⟨c, d, rest, rfl, hd, h⟩

theorem readString_cases {q : Quoted} {cs : List Char} {r : Option String × List Char}
    (h : readString q .plain cs = some r) :
    cs = '"' :: r.2 ∧ r.1 = q.text? ∨
      ∃ m w rest, Mark.Written m w ∧ cs = w ++ rest ∧ readString (q.take m) .plain rest = some r := by
  obtain ⟨c, rest, rfl⟩ := eq_cons_of_readString h
  simp only [readString] at h
  split_ifs at h with hq hs hc
  · obtain rfl := Option.some.inj h
    exact .inl ⟨by rw [hq], rfl⟩
  · subst hs
    obtain ⟨e, rest, rfl⟩ := eq_cons_of_readString h
    simp only [readString] at h
    split_ifs at h with hu
    · subst hu
      obtain ⟨a, w, rest, rfl, ha, h⟩ := readString_digit h
      obtain ⟨b, x, rest, rfl, hb, h⟩ := readString_digit h
      obtain ⟨c, y, rest, rfl, hc, h⟩ := readString_digit h
      obtain ⟨d, z, rest, rfl, hd, h⟩ := readString_digit h
      refine .inr ⟨_, _, rest, .unit ha hb hc hd, rfl, ?_⟩
      simpa using h
    · split at h
      · next c he => exact .inr ⟨_, _, rest, .letter he, rfl, h⟩
      · cases h
  · exact .inr ⟨_, _, rest, .plain hq hs (Nat.not_lt.mp hc), rfl, h⟩

theorem marks_of_readString {cs : List Char} {q : Quoted} {r : Option String × List Char}
    (h : readString q .plain cs = some r) :
    ∃ ms body, Mark.AllWritten ms body ∧ cs = body ++ '"' :: r.2 ∧
      r.1 = (ms.foldl Quoted.take q).text? := by
  rcases readString_cases h with ⟨rfl, ht⟩ | ⟨m, w, rest, hm, rfl, hr⟩
  · exact ⟨[], [], .nil, rfl, ht⟩
  · have hw : 0 < w.length := by cases hm <;> simp
    obtain ⟨ms, body, hms, rfl, ht⟩ := marks_of_readString hr
    exact ⟨m :: ms, w ++ body, .cons hm hms, by rw [List.append_assoc], ht⟩
termination_by cs.length
decreasing_by grind

/-- How a string is written that has this text, or none. -/
def StringWritten (text : Option String) (cs : List Char) : Prop :=
  ∃ ms body, Mark.AllWritten ms body ∧ cs = '"' :: (body ++ ['"']) ∧
    text = (Mark.text? ms).map String.ofList

/-- After its opening quote a string is read if and only if it is written. -/
theorem readString_iff {text : Option String} {cs rest : List Char} :
    readString {} .plain cs = some (text, rest) ↔
      ∃ w, StringWritten text ('"' :: w) ∧ cs = w ++ rest := by
  have ht : ∀ ms : List Mark, (ms.foldl Quoted.take {}).text? = (Mark.text? ms).map String.ofList :=
    fun ms => by
      rw [Quoted.text?_foldl_take ms rfl rfl]
      rfl
  constructor
  · intro h
    obtain ⟨ms, body, hms, rfl, rfl⟩ := marks_of_readString h
    exact ⟨body ++ ['"'], ⟨ms, body, hms, rfl, ht ms⟩, by simp⟩
  · rintro ⟨w, ⟨ms, body, hms, hw, rfl⟩, rfl⟩
    obtain ⟨-, rfl⟩ := List.cons.inj hw
    rw [List.append_assoc, List.singleton_append, readString_marks hms, ht]

end AuditTrail.Json.Token
