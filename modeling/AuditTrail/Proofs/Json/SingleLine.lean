import AuditTrail.Json.Printer
import AuditTrail.Proofs.Json.Numerals
import AuditTrail.Proofs.Text.Split
import Mathlib.Tactic.SplitIfs

/-! # Compact text is a single line

Line feeds within quotes are escaped, and no other part of compact text has one.
-/

namespace AuditTrail.Json

open Text

/-! ## Quoted text -/

theorem isLine_escape (c : Char) : IsLine (escape c) := by
  have hex : ∀ n < 16, hexChar n ≠ '\n' := by decide
  unfold escape
  split_ifs with h₁ h₂ h₃ h₄ h₅ h₆ h₇ h₈
  iterate 7 decide
  · have hh := hex (c.toNat / 16) (by omega)
    have hl := hex (c.toNat % 16) (by omega)
    simp [hh, hl]
  · simp [h₅]

theorem isLine_quote (s : String) : IsLine (quote s) := by
  have h : IsLine (s.toList.flatMap escape) := isLine_flatMap fun c _ => isLine_escape c
  simp [quote, h]

/-! ## Numbers -/

theorem isLine_digitChars (n : Nat) : IsLine (digitChars n) :=
  fun h => absurd (isDigit_of_mem_digitChars h) (by decide)

theorem isLine_zeros (n : Nat) : IsLine (zeros n) :=
  fun h => absurd (List.eq_of_mem_replicate h) (by decide)

theorem isLine_floatLayout (layout : FloatLayout) (d : Decimal.Scaled) :
    IsLine (layout.chars d) := by
  have hd : IsLine (digitChars d.digits) := isLine_digitChars d.digits
  unfold FloatLayout.chars
  simp only
  split_ifs
  · simp [hd, isLine_zeros]
  · simp [hd.of_subset (List.take_subset ..), hd.of_subset (List.drop_subset ..)]
  · simp [hd, isLine_zeros]
  all_goals
    revert hd
    cases digitChars d.digits with
    | nil => simp [isLine_digitChars]
    | cons lead rest => cases rest <;> simp +contextual [isLine_digitChars]

theorem isLine_numberChars (n : Number) : IsLine n.chars := by
  cases n with
  | int n =>
    rw [Number.chars, intChars]
    split_ifs <;> simp [isLine_digitChars]
  | float bits =>
    rw [Number.chars, floatChars]
    split_ifs <;> simp [isLine_floatLayout]

/-! ## Values -/

namespace Value

mutual

theorem isLine_compactChars : ∀ v : Value, IsLine v.compactChars
  | .null | .bool true | .bool false | .array [] | .object [] => by simp [compactChars]
  | .number n => isLine_numberChars n
  | .string s => isLine_quote s
  | .array (v :: vs) => by
    simp [compactChars, isLine_compactChars v, isLine_compactItems vs]
  | .object ((k, v) :: ms) => by
    simp [compactChars, isLine_quote k, isLine_compactChars v, isLine_compactMembers ms]

theorem isLine_compactItems : ∀ vs : List Value, IsLine (compactItems vs)
  | [] => by simp [compactItems]
  | v :: vs => by simp [compactItems, isLine_compactChars v, isLine_compactItems vs]

theorem isLine_compactMembers : ∀ ms : List (String × Value), IsLine (compactMembers ms)
  | [] => by simp [compactMembers]
  | (k, v) :: ms => by
    simp [compactMembers, isLine_quote k, isLine_compactChars v, isLine_compactMembers ms]

end

theorem isLine_compact (v : Value) : IsLine v.compact.toList := by
  rw [compact, String.toList_ofList]
  exact isLine_compactChars v

end Value

end AuditTrail.Json
