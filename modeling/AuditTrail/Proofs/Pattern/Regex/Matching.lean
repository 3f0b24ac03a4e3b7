import AuditTrail.Pattern.Regex.Matching
import Mathlib.Data.Nat.Bitwise

/-! # Matching finds the ways of an expression

Laid over a text, an expression maps a set of places to all the places that it leads to from them.
So matching finds an expression in a text exactly where the expression leads from some place of
the text to another.
-/

namespace AuditTrail.Pattern.Regex

open Text (CharClass)

variable {text : List Char} {a r : Regex} {i j k n : Nat}

/-! ## Ways go forward -/

theorem Leads.le (h : Leads text r i j) : i ≤ j := by
  induction h with
  | empty | look | stop => exact Nat.le_refl _
  | chars => exact Nat.le_succ _
  | seq _ _ ih ih' => exact Nat.le_trans ih ih'
  | altLeft _ ih | altRight _ ih => exact ih
  | again _ _ _ ih ih' => exact Nat.le_trans ih ih'

theorem Leads.le_length (h : Leads text r i j) : i = j ∨ j ≤ text.length := by
  induction h with
  | empty | look | stop => exact Or.inl rfl
  | chars hx => exact Or.inr (List.getElem?_eq_some_iff.mp hx).1
  | altLeft _ ih | altRight _ ih => exact ih
  | seq _ _ ih ih' | again _ _ _ ih ih' =>
    rcases ih' with rfl | h
    · exact ih
    · exact Or.inr h

/-- Steps of a relation, one after the other. -/
inductive Steps (R : Nat → Nat → Prop) : Nat → Nat → Nat → Prop
  | zero (i : Nat) : Steps R 0 i i
  | succ {n i j k : Nat} : R i j → Steps R n j k → Steps R (n + 1) i k

namespace Steps

variable {R : Nat → Nat → Prop}

theorem add {m : Nat} (h : Steps R m i j) (h' : Steps R n j k) : Steps R (m + n) i k := by
  induction h with
  | zero => rwa [Nat.zero_add]
  | succ hr _ ih =>
    rw [Nat.succ_add]
    exact .succ hr (ih h')

theorem exists_of_add {m : Nat} (h : Steps R (m + n) i k) :
    ∃ j, Steps R m i j ∧ Steps R n j k := by
  induction m generalizing i with
  | zero => exact ⟨i, .zero i, by rwa [Nat.zero_add] at h⟩
  | succ m ih =>
    rw [Nat.succ_add] at h
    cases h with
    | succ hr h =>
      obtain ⟨j, hj, hk⟩ := ih h
      exact ⟨j, .succ hr hj, hk⟩

/-- Steps that go forward can be had without those that stay. -/
theorem exists_le (hR : ∀ i j, R i j → i ≤ j) (h : Steps R n i k) :
    i ≤ k ∧ ∃ m, m ≤ k - i ∧ Steps R m i k := by
  induction h with
  | zero i => exact ⟨Nat.le_refl i, 0, Nat.zero_le _, .zero i⟩
  | @succ n i j k hr _ ih =>
    obtain ⟨hjk, m, hm, hs⟩ := ih
    have hij := hR i j hr
    refine ⟨Nat.le_trans hij hjk, ?_⟩
    rcases Nat.eq_or_lt_of_le hij with rfl | hlt
    · exact ⟨m, hm, hs⟩
    · exact ⟨m + 1, by omega, .succ hr hs⟩

theorem le_length {length : Nat} (hR : ∀ i j, R i j → i = j ∨ j ≤ length)
    (h : Steps R n i k) : i = k ∨ k ≤ length := by
  induction h with
  | zero => exact Or.inl rfl
  | succ hr _ ih =>
    rcases ih with rfl | hk
    · exact hR _ _ hr
    · exact Or.inr hk

end Steps

theorem leads_times_iff {least : Nat} {most : Option Nat} :
    Leads text (.times a least most) i k ↔
      ∃ n, least ≤ n ∧ (∀ m ∈ most, n ≤ m) ∧ Steps (Leads text a) n i k := by
  constructor
  · intro h
    generalize hr : Regex.times a least most = r at h
    induction h generalizing least most with
    | stop =>
      cases hr
      exact ⟨0, Nat.le_refl 0, fun m _ => Nat.zero_le m, .zero _⟩
    | again hm hl _ _ ih =>
      cases hr
      obtain ⟨n, hn, hn', hs⟩ := ih rfl
      refine ⟨n + 1, by omega, fun m hmm => ?_, .succ hl hs⟩
      cases hmm
      have h0 : m ≠ 0 := fun h => hm (congrArg some h)
      have := hn' (m - 1) rfl
      omega
    | _ => cases hr
  · rintro ⟨n, hn, hm, hs⟩
    induction n generalizing i least most with
    | zero =>
      cases hs
      obtain rfl := Nat.le_zero.mp hn
      exact .stop _
    | succ n ih =>
      cases hs with
      | succ hl hs =>
        refine .again ?_ hl (ih (by omega) ?_ hs)
        · rintro rfl
          exact absurd (hm 0 rfl) (Nat.not_succ_le_zero n)
        · intro m hmm
          obtain ⟨m', hm', rfl⟩ := Option.map_eq_some_iff.mp hmm
          have := hm m' hm'
          omega

/-! ## Sets of places -/

theorem testBit_double_add (s : Places) (b : Bool) (i : Nat) :
    (2 * s + (if b then 1 else 0)).testBit i = if i = 0 then b else s.testBit (i - 1) := by
  cases i with
  | zero => cases b <;> simp [Nat.testBit_zero, Nat.add_mod]
  | succ i =>
    have hd : (2 * s + (if b then 1 else 0)) / 2 = s := by
      rw [Nat.mul_add_div Nat.two_pos]
      cases b <;> rfl
    rw [Nat.testBit_succ, hd]
    rfl

theorem testBit_double (s : Places) (i : Nat) :
    (2 * s).testBit (i + 1) = s.testBit i := by
  rw [Nat.testBit_succ, Nat.mul_div_cancel_left s Nat.two_pos]

theorem testBit_beforeClass (c : CharClass) (text : List Char) (i : Nat) :
    (beforeClass c text).testBit i = text[i]?.any c.contains := by
  induction text generalizing i with
  | nil => simp [beforeClass]
  | cons x text ih =>
    rw [beforeClass, List.foldr_cons, ← beforeClass, testBit_double_add]
    cases i with
    | zero => rfl
    | succ i => exact ih i

theorem testBit_holding (l : Look) (prev : Option Char) (text : List Char) (i : Nat) :
    (holding l prev text).testBit i =
      (decide (i ≤ text.length) &&
        l.holds (if i = 0 then prev else text[i - 1]?) text[i]?) := by
  induction text generalizing prev i with
  | nil =>
    have h := testBit_double_add 0 (l.holds prev none) i
    rw [Nat.mul_zero, Nat.zero_add] at h
    rw [holding, h]
    cases i <;> simp
  | cons x text ih =>
    rw [holding, testBit_double_add, ih]
    cases i with
    | zero => simp
    | succ i => cases i <;> simp

@[simp] theorem testBit_without (s t : Places) (i : Nat) :
    (without s t).testBit i = (s.testBit i && !t.testBit i) := by
  rw [without, Nat.testBit_xor, Nat.testBit_and]
  cases s.testBit i <;> simp

theorem testBit_allPlaces (text : List Char) (i : Nat) :
    (allPlaces text).testBit i = decide (i ≤ text.length) := by
  rw [allPlaces, show Nat.pow 2 (text.length + 1) = 2 ^ (text.length + 1) from rfl,
    Nat.testBit_two_pow_sub_one]
  simp only [Nat.lt_succ_iff]

/-! ## Repetition -/

/-- A map of sets of places goes by a relation between places. -/
def GoesBy (step : Places → Places) (R : Nat → Nat → Prop) : Prop :=
  ∀ s j, (step s).testBit j = true ↔ ∃ i, s.testBit i = true ∧ R i j

section Repetition

variable {step : Places → Places} {R : Nat → Nat → Prop} {s seen fresh : Places}

theorem after_of_fixed (h : step s = s) (n : Nat) : after step n s = s := by
  cases n with
  | zero => rfl
  | succ n => rw [after, if_pos h]

theorem after_succ (step : Places → Places) (n : Nat) (s : Places) :
    after step (n + 1) s = after step n (step s) := by
  rw [after]
  split
  · next h => rw [h, after_of_fixed h]
  · rfl

theorem goesBy_after (h : GoesBy step R) (n : Nat) : GoesBy (after step n) (Steps R n) := by
  intro s j
  induction n generalizing s with
  | zero =>
    constructor
    · intro hj
      exact ⟨j, hj, .zero j⟩
    · rintro ⟨_, hi, hs⟩
      cases hs
      exact hi
  | succ n ih =>
    rw [after_succ, ih]
    constructor
    · rintro ⟨i', hi', hs⟩
      obtain ⟨i, hi, hr⟩ := (h s i').mp hi'
      exact ⟨i, hi, .succ hr hs⟩
    · rintro ⟨i, hi, hs⟩
      cases hs with
      | succ hr hs => exact ⟨_, (h s _).mpr ⟨i, hi, hr⟩, hs⟩

/-- A place is reached in a number of steps at most. -/
def Within (R : Nat → Nat → Prop) (n : Nat) (i j : Nat) : Prop := ∃ m, m ≤ n ∧ Steps R m i j

theorem Within.succ (hr : R i j) (h : Within R n j k) : Within R (n + 1) i k := by
  obtain ⟨m, hm, hs⟩ := h
  exact ⟨m + 1, Nat.succ_le_succ hm, .succ hr hs⟩

/-- Where every step leads from seen places to seen or fresh ones, ways from seen places that leave
them go through a fresh one. -/
theorem seen_or_fresh (hc : ∀ i j, seen.testBit i = true → R i j →
      seen.testBit j = true ∨ fresh.testBit j = true)
    (hi : seen.testBit i = true ∨ fresh.testBit i = true) (hs : Steps R n i j) :
    seen.testBit j = true ∨ ∃ i', fresh.testBit i' = true ∧ Within R n i' j := by
  induction hs with
  | zero i => exact hi.imp_right fun hi => ⟨i, hi, 0, Nat.le_refl 0, .zero i⟩
  | @succ n i i' j hr hs ih =>
    rcases hi with hi | hi
    · refine (ih (hc i i' hi hr)).imp_right ?_
      rintro ⟨k, hk, m, hm, hw⟩
      exact ⟨k, hk, m, Nat.le_succ_of_le hm, hw⟩
    · exact Or.inr ⟨i, hi, n + 1, Nat.le_refl _, .succ hr hs⟩

theorem testBit_reach (h : GoesBy step R) (n : Nat) {seen fresh : Places}
    (hf : ∀ i, fresh.testBit i = true → seen.testBit i = true)
    (hc : ∀ i j, seen.testBit i = true → fresh.testBit i = false → R i j → seen.testBit j = true)
    (j : Nat) :
    (reach step n seen fresh).testBit j = true ↔
      seen.testBit j = true ∨ ∃ i, fresh.testBit i = true ∧ Within R n i j := by
  induction n generalizing seen fresh with
  | zero =>
    rw [reach]
    constructor
    · exact Or.inl
    · rintro (hj | ⟨i, hi, m, hm, hs⟩)
      · exact hj
      · obtain rfl := Nat.le_zero.mp hm
        cases hs
        exact hf _ hi
  | succ n ih =>
    have hn : ∀ j, (without (step fresh) seen).testBit j = true ↔
        (∃ i, fresh.testBit i = true ∧ R i j) ∧ seen.testBit j = false := by
      intro j
      rw [testBit_without, Bool.and_eq_true, Bool.not_eq_true', h]
    have hs : ∀ i j, seen.testBit i = true → R i j →
        seen.testBit j = true ∨ (without (step fresh) seen).testBit j = true := by
      intro i j hi hr
      cases hfi : fresh.testBit i with
      | false => exact Or.inl (hc i j hi hfi hr)
      | true =>
        cases hj : seen.testBit j with
        | true => exact Or.inl rfl
        | false => exact Or.inr ((hn j).mpr ⟨⟨i, hfi, hr⟩, hj⟩)
    rw [reach]
    generalize without (step fresh) seen = next at hn hs
    split
    · next hz =>
      subst hz
      constructor
      · exact Or.inl
      · rintro (hj | ⟨i, hi, m, -, hw⟩)
        · exact hj
        · rcases seen_or_fresh hs (Or.inl (hf i hi)) hw with hj | ⟨i', hi', -⟩
          · exact hj
          · simp at hi'
    · rw [ih]
      · simp only [Nat.testBit_or, Bool.or_eq_true]
        constructor
        · rintro ((hj | hj) | ⟨i', hi', m, hm, hw⟩)
          · exact Or.inl hj
          · obtain ⟨⟨i, hi, hr⟩, -⟩ := (hn j).mp hj
            exact Or.inr ⟨i, hi, .succ hr ⟨0, Nat.zero_le n, .zero j⟩⟩
          · obtain ⟨⟨i, hi, hr⟩, -⟩ := (hn i').mp hi'
            exact Or.inr ⟨i, hi, .succ hr ⟨m, hm, hw⟩⟩
        · rintro (hj | ⟨i, hi, m, hm, hw⟩)
          · exact Or.inl (Or.inl hj)
          · cases hw with
            | zero => exact Or.inl (Or.inl (hf _ hi))
            | @succ m _ i' _ hr hw =>
              rcases seen_or_fresh hs (hs i i' (hf i hi) hr) hw with hj | ⟨k, hk, l, hl, hw⟩
              · exact Or.inl (Or.inl hj)
              · exact Or.inr ⟨k, hk, l, by omega, hw⟩
      · intro i hi
        simp [Nat.testBit_or, hi]
      · intro i j hi hni hr
        rw [Nat.testBit_or, Bool.or_eq_true] at hi ⊢
        rcases hi with hi | hi
        · exact hs i j hi hr
        · rw [hi] at hni
          cases hni

theorem goesBy_reach (h : GoesBy step R) (n : Nat) :
    GoesBy (fun s => reach step n s s) (Within R n) := by
  intro s j
  rw [testBit_reach h n (fun _ hi => hi)]
  · constructor
    · rintro (hj | hw)
      · exact ⟨j, hj, 0, Nat.zero_le n, .zero j⟩
      · exact hw
    · exact Or.inr
  · intro i j hi hni
    rw [hi] at hni
    cases hni

/-- Any number of steps is as good as some number that the length of the text tells. -/
theorem exists_steps_iff {length least : Nat} {most : Option Nat} (hle : ∀ i j, R i j → i ≤ j)
    (hl : ∀ i j, R i j → i = j ∨ j ≤ length) :
    (∃ n, least ≤ n ∧ (∀ m ∈ most, n ≤ m) ∧ Steps R n i k) ↔
      ∃ rounds, extraRounds least most length = some rounds ∧
        ∃ j, Steps R least i j ∧ Within R rounds j k := by
  constructor
  · rintro ⟨n, hn, hm, hs⟩
    obtain ⟨m, rfl⟩ := Nat.exists_eq_add_of_le hn
    obtain ⟨j, hj, hk⟩ := hs.exists_of_add
    cases most with
    | none =>
      refine ⟨length + 1, rfl, j, hj, ?_⟩
      obtain ⟨hjk, m', hm', hs'⟩ := hk.exists_le hle
      refine ⟨m', ?_, hs'⟩
      rcases hk.le_length hl with rfl | hkl
      · omega
      · omega
    | some most =>
      have hm := hm most rfl
      exact ⟨most - least, if_neg (by omega), j, hj, m, by omega, hk⟩
  · rintro ⟨rounds, hr, j, hj, m, hm, hk⟩
    refine ⟨least + m, Nat.le_add_right .., fun most hmm => ?_, hj.add hk⟩
    obtain rfl := hmm
    unfold extraRounds at hr
    dsimp only at hr
    split at hr
    · cases hr
    · cases hr
      omega

end Repetition

/-! ## Laid expressions -/

theorem goesBy_ends (text : List Char) (r : Regex) :
    GoesBy (r.layOver text).ends (Leads text r) := by
  induction r with
  | empty =>
    intro s j
    constructor
    · intro hj
      exact ⟨j, hj, .empty j⟩
    · rintro ⟨i, hi, h⟩
      cases h
      exact hi
  | chars c =>
    intro s j
    rw [layOver, Laid.ends]
    cases j with
    | zero =>
      constructor
      · intro hj
        simp [Nat.testBit_zero] at hj
      · rintro ⟨i, -, h⟩
        cases h
    | succ j =>
      rw [testBit_double, Nat.testBit_and, Bool.and_eq_true, testBit_beforeClass,
        Option.any_eq_true]
      constructor
      · rintro ⟨hj, x, hx, hc⟩
        exact ⟨j, hj, .chars hx hc⟩
      · rintro ⟨i, hi, h⟩
        cases h with
        | chars hx hc => exact ⟨hi, _, hx, hc⟩
  | look l =>
    intro s j
    rw [layOver, Laid.ends, Nat.testBit_and, Bool.and_eq_true, testBit_holding, Bool.and_eq_true,
      decide_eq_true_eq]
    constructor
    · rintro ⟨hj, hl, hh⟩
      exact ⟨j, hj, .look hl hh⟩
    · rintro ⟨i, hi, h⟩
      cases h with
      | look hl hh => exact ⟨hi, hl, hh⟩
  | seq a b iha ihb =>
    intro s k
    rw [layOver, Laid.ends, ihb]
    constructor
    · rintro ⟨j, hj, hb⟩
      obtain ⟨i, hi, ha⟩ := (iha s j).mp hj
      exact ⟨i, hi, .seq ha hb⟩
    · rintro ⟨i, hi, h⟩
      cases h with
      | seq ha hb => exact ⟨_, (iha s _).mpr ⟨i, hi, ha⟩, hb⟩
  | alt a b iha ihb =>
    intro s j
    rw [layOver, Laid.ends, Nat.testBit_or, Bool.or_eq_true, iha, ihb]
    constructor
    · rintro (⟨i, hi, h⟩ | ⟨i, hi, h⟩)
      · exact ⟨i, hi, .altLeft h⟩
      · exact ⟨i, hi, .altRight h⟩
    · rintro ⟨i, hi, h⟩
      cases h with
      | altLeft h => exact Or.inl ⟨i, hi, h⟩
      | altRight h => exact Or.inr ⟨i, hi, h⟩
  | times a least most ih =>
    intro s k
    have hs : ∀ i, (∃ n, least ≤ n ∧ (∀ m ∈ most, n ≤ m) ∧ Steps (Leads text a) n i k) ↔ _ :=
      fun _ => exists_steps_iff (fun _ _ => Leads.le) fun _ _ => Leads.le_length
    simp only [leads_times_iff, hs]
    rw [layOver]
    unfold Laid.ends
    cases extraRounds least most text.length with
    | none => simp
    | some rounds =>
      simp only [Option.some.injEq, exists_eq_left']
      refine (goesBy_reach ih rounds _ k).trans ?_
      simp only [goesBy_after ih least s _]
      constructor
      · rintro ⟨j, ⟨i, hi, hj⟩, hk⟩
        exact ⟨i, hi, j, hj, hk⟩
      · rintro ⟨i, hi, j, hj, hk⟩
        exact ⟨j, ⟨i, hi, hj⟩, hk⟩

theorem isMatch_iff (r : Regex) (text : List Char) : r.isMatch text = true ↔ r.Matches text := by
  rw [isMatch, bne_iff_ne]
  constructor
  · intro h
    obtain ⟨j, hj⟩ := Nat.exists_testBit_of_ne_zero h
    obtain ⟨i, hi, hl⟩ := (goesBy_ends text r _ j).mp hj
    rw [testBit_allPlaces, decide_eq_true_eq] at hi
    exact ⟨i, j, hi, hl⟩
  · rintro ⟨i, j, hi, hl⟩ hz
    have hj := (goesBy_ends text r (allPlaces text) j).mpr
      ⟨i, by rwa [testBit_allPlaces, decide_eq_true_eq], hl⟩
    simp [hz] at hj

/-! ## Sequences and anchors -/

theorem leads_seq_iff {b : Regex} : Leads text (.seq a b) i k ↔
    ∃ j, Leads text a i j ∧ Leads text b j k := by
  constructor
  · intro h
    cases h with
    | seq ha hb => exact ⟨_, ha, hb⟩
  · rintro ⟨j, ha, hb⟩
    exact .seq ha hb

@[simp] theorem leads_seqs_nil_iff : Leads text (seqs []) i k ↔ i = k := by
  constructor
  · intro h
    cases h
    rfl
  · rintro rfl
    exact .empty i

theorem leads_seqs_cons_iff {rs : List Regex} : Leads text (seqs (r :: rs)) i k ↔
    ∃ j, Leads text r i j ∧ Leads text (seqs rs) j k :=
  leads_seq_iff

theorem leads_seqs_append_iff {rs rs' : List Regex} : Leads text (seqs (rs ++ rs')) i k ↔
    ∃ j, Leads text (seqs rs) i j ∧ Leads text (seqs rs') j k := by
  induction rs generalizing i with
  | nil => simp
  | cons r rs ih =>
    simp only [List.cons_append, leads_seqs_cons_iff, ih]
    constructor
    · rintro ⟨l, hl, j, hj, hk⟩
      exact ⟨j, ⟨l, hl, hj⟩, hk⟩
    · rintro ⟨j, ⟨l, hl, hj⟩, hk⟩
      exact ⟨l, hl, j, hj, hk⟩

theorem leads_start_iff (hi : i ≤ text.length) :
    Leads text (.look .start) i j ↔ i = 0 ∧ j = 0 := by
  constructor
  · intro h
    cases h with
    | look _ hh =>
      suffices i = 0 from ⟨this, this⟩
      by_contra h0
      simp only [Look.holds, before, if_neg h0, Option.isNone_iff_eq_none,
        List.getElem?_eq_none_iff] at hh
      omega
  · rintro ⟨rfl, rfl⟩
    exact .look hi rfl

theorem leads_finish_iff : Leads text (.look .finish) i j ↔ i = text.length ∧ j = text.length := by
  constructor
  · intro h
    cases h with
    | look hi hh =>
      simp only [Look.holds, Option.isNone_iff_eq_none, List.getElem?_eq_none_iff] at hh
      have := Nat.le_antisymm hi hh
      exact ⟨this, this⟩
  · rintro ⟨rfl, rfl⟩
    exact .look (Nat.le_refl _) (by simp [Look.holds])

/-- Between anchors an expression matches whole texts only. -/
theorem matches_anchored_iff (rs : List Regex) (text : List Char) :
    (seqs (.look .start :: (rs ++ [.look .finish]))).Matches text ↔
      (seqs rs).MatchesWhole text := by
  simp only [Matches, MatchesWhole, leads_seqs_cons_iff, leads_seqs_append_iff, leads_finish_iff,
    leads_seqs_nil_iff]
  constructor
  · rintro ⟨i, k, hi, j, hj, l, hl, -, ⟨rfl, -⟩, -⟩
    obtain ⟨-, rfl⟩ := (leads_start_iff hi).mp hj
    exact hl
  · intro h
    exact ⟨0, _, Nat.zero_le _, 0, (leads_start_iff (Nat.zero_le _)).mpr ⟨rfl, rfl⟩, _, h, _,
      ⟨rfl, rfl⟩, rfl⟩

end AuditTrail.Pattern.Regex
