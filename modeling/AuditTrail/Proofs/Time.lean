import AuditTrail.Proofs.Json.Numerals
import AuditTrail.Time
import Mathlib.Data.Nat.Digits.Defs

/-! # Calendar fields

A date belongs to one day. Months, days, hours, minutes and seconds stay within the calendar's
bounds, so that each is written with two digits, and years with four as long as they have no more;
what is written tells the number.
-/

namespace AuditTrail

attribute [ext] Date

/-! ## Dates -/

/-- Within an era of four hundred years that start in March, a day lies in the year that is
computed from its number. -/
theorem Date.yearOfEra_bounds {n : Nat} (h : n < 146097) :
    (n - n / 1460 + n / 36524 - n / 146096) / 365 < 400 ∧
    365 * ((n - n / 1460 + n / 36524 - n / 146096) / 365) +
      (n - n / 1460 + n / 36524 - n / 146096) / 365 / 4 -
      (n - n / 1460 + n / 36524 - n / 146096) / 365 / 100 ≤ n ∧
    n - (365 * ((n - n / 1460 + n / 36524 - n / 146096) / 365) +
      (n - n / 1460 + n / 36524 - n / 146096) / 365 / 4 -
      (n - n / 1460 + n / 36524 - n / 146096) / 365 / 100) ≤ 365 := by
  rcases Nat.lt_or_eq_of_le (Nat.le_of_lt_succ h) with hn | rfl
  · -- The day is cut into centuries, then into spans of four years; only the last day of an era
    -- would make a fifth century.
    have he : n / 146096 = 0 := Nat.div_eq_of_lt hn
    obtain ⟨c, hc⟩ : ∃ c, n / 36524 = c := ⟨_, rfl⟩
    obtain ⟨q, hq⟩ : ∃ q, n % 36524 / 1461 = q := ⟨_, rfl⟩
    obtain ⟨s, hs⟩ : ∃ s, n % 36524 % 1461 = s := ⟨_, rfl⟩
    have hn' : n = 36524 * c + 1461 * q + s := by omega
    have hc' : c ≤ 3 := by omega
    have hq' : q ≤ 24 := by omega
    have ha : n / 1460 = 25 * c + q ∨ n / 1460 = 25 * c + q + 1 := by omega
    obtain ⟨y, hy⟩ : ∃ y, (s - (n / 1460 - (25 * c + q))) / 365 = y := ⟨_, rfl⟩
    have hy' : (n - n / 1460 + n / 36524 - n / 146096) / 365 = 100 * c + 4 * q + y := by omega
    have h4 : (100 * c + 4 * q + y) / 4 = 25 * c + q := by omega
    have h100 : (100 * c + 4 * q + y) / 100 = c := by omega
    rw [hy', h4, h100]
    omega
  · decide

/-- The number of a date's day, counted from the first of January 1970. -/
def Date.toDays (d : Date) : Int :=
  let year := d.year - (if d.month ≤ 2 then 1 else 0)
  let monthFromMarch := (d.month + 9) % 12
  365 * year + year / 4 - year / 100 + year / 400 + (153 * monthFromMarch + 2) / 5 + d.day - 1 -
    719468

/-- A date tells which day it is. -/
theorem Date.toDays_ofDays (days : Int) : (Date.ofDays days).toDays = days := by
  obtain ⟨n, hn⟩ : ∃ n, ((days + 719468) % 146097).toNat = n := ⟨_, rfl⟩
  have hlt : n < 146097 := by omega
  have hdays : days + 719468 = 146097 * ((days + 719468) / 146097) + n := by omega
  obtain ⟨hy, hle, hdoy⟩ := yearOfEra_bounds hlt
  simp only [ofDays, toDays, hn]
  generalize (days + 719468) / 146097 = era at hdays ⊢
  generalize (n - n / 1460 + n / 36524 - n / 146096) / 365 = y at hy hle hdoy ⊢
  generalize hd : n - (365 * y + y / 4 - y / 100) = d at hdoy ⊢
  generalize hm : (5 * d + 2) / 153 = m
  have hm' : m ≤ 11 := by omega
  have hday : (153 * m + 2) / 5 ≤ d := by omega
  have hyears : 365 * (y + era * 400 : Int) + (y + era * 400) / 4 - (y + era * 400) / 100 +
      (y + era * 400) / 400 = 146097 * era + (365 * y + y / 4 - y / 100) := by omega
  split
  · have hb : (m + 3 + 9) % 12 = m := by omega
    rw [if_neg (by omega), hb]
    simp only [add_zero, sub_zero, hyears]
    omega
  · have hb : (m - 9 + 9) % 12 = m := by omega
    rw [if_pos (by omega), hb]
    simp only [add_sub_cancel_right, hyears]
    omega

theorem Date.ofDays_injective : Function.Injective Date.ofDays :=
  Function.LeftInverse.injective toDays_ofDays

/-! ## Bounds -/

theorem Date.month_le (days : Int) : (Date.ofDays days).month ≤ 12 := by
  have h := (yearOfEra_bounds (n := ((days + 719468) % 146097).toNat) (by omega)).2.2
  simp only [Date.ofDays]
  split <;> omega

theorem Date.day_le (days : Int) : (Date.ofDays days).day ≤ 31 := by
  simp only [Date.ofDays]
  omega

namespace Instant

theorem date_eq_iff {t u : Instant} : t.date = u.date ↔ t.seconds / 86400 = u.seconds / 86400 :=
  Date.ofDays_injective.eq_iff

/-- Whether the fraction of a second is one that a clock can show, the leap second included. -/
def IsProper (t : Instant) : Prop := t.nanos < 2 * Nat.pow 10 9

instance (t : Instant) : Decidable t.IsProper :=
  inferInstanceAs (Decidable (t.nanos < 2 * Nat.pow 10 9))

theorem month_le (t : Instant) : t.date.month ≤ 12 := Date.month_le _

theorem day_le (t : Instant) : t.date.day ≤ 31 := Date.day_le _

theorem secondOfDay_lt (t : Instant) : t.secondOfDay < 86400 := by
  unfold secondOfDay
  omega

theorem hour_lt (t : Instant) : t.hour < 24 := by
  have := t.secondOfDay_lt
  unfold hour
  omega

theorem minute_lt (t : Instant) : t.minute < 60 := by
  unfold minute
  omega

theorem second_le {t : Instant} (h : t.IsProper) : t.second ≤ 60 := by
  have hn : t.nanos / Nat.pow 10 9 < 2 := Nat.div_lt_of_lt_mul (Nat.mul_comm 2 _ ▸ h)
  unfold second
  omega

end Instant

/-! ## Digits -/

theorem isDigit_of_mem_padded {width n : Nat} {c : Char} (h : c ∈ (padded width n).toList) :
    c.isDigit = true := by
  rw [padded, String.toList_ofList, List.mem_append] at h
  rcases h with h | h
  · rw [List.eq_of_mem_replicate h]
    rfl
  · exact Json.isDigit_of_mem_digitChars h

theorem length_padded {width n : Nat} (hw : 0 < width) (h : n < Nat.pow 10 width) :
    (padded width n).length = width := by
  have hl : n.repr.toList.length ≤ width := Nat.repr_length n width hw h
  rw [padded, ← String.length_toList, String.toList_ofList, List.length_append,
    List.length_replicate]
  exact Nat.sub_add_cancel hl

theorem le_length_padded (width n : Nat) : width ≤ (padded width n).length := by
  rw [padded, ← String.length_toList, String.toList_ofList, List.length_append,
    List.length_replicate]
  omega

theorem ofDigits_padded (width n : Nat) :
    ((padded width n).toList.map fun c => c.toNat - '0'.toNat).foldl (fun n d => n * 10 + d) 0 =
      n := by
  have hz : ∀ k, (List.replicate k 0).foldl (fun n d => n * 10 + d) 0 = 0 := by
    intro k
    induction k with
    | zero => rfl
    | succ k ih => exact ih
  rw [padded, String.toList_ofList, List.map_append, List.map_replicate, List.foldl_append]
  exact (congrArg (List.foldl _ · _) (hz _)).trans (Json.ofDigits_digitValues n)

theorem padded_injective (width : Nat) : Function.Injective (padded width) := by
  intro m n h
  rw [← ofDigits_padded width m, h, ofDigits_padded]

theorem yearText_of_le {year : Int} (h : 0 ≤ year) (h' : year ≤ 9999) :
    yearText year = padded 4 year.natAbs := by
  unfold yearText
  dsimp only
  rw [if_neg (by omega), if_neg (by omega)]

theorem yearText_of_not_le {year : Int} (h : ¬(0 ≤ year ∧ year ≤ 9999)) :
    yearText year = (if year < 0 then "-" else "+") ++ padded 4 year.natAbs := by
  unfold yearText
  dsimp only
  by_cases hy : year < 0
  · rw [if_pos hy, if_pos hy]
  · rw [if_neg hy, if_neg hy, if_pos (by omega)]

theorem eq_of_yearText_eq {year year' : Int} (h : 0 ≤ year ∧ year ≤ 9999)
    (h' : 0 ≤ year' ∧ year' ≤ 9999) (he : yearText year = yearText year') : year = year' := by
  rw [yearText_of_le h.1 h.2, yearText_of_le h'.1 h'.2] at he
  have := padded_injective 4 he
  omega

end AuditTrail
