/-! # Reading decimals

A decimal numeral becomes a double in one pass: its leading digits are collected into a word of
64 bits, digits that no longer fit are dropped, and the word is scaled by a power of ten. Every
scaling rounds, so the result may differ from the nearest double in its last places.
-/

namespace AuditTrail.Decimal

/-- The digits collected so far, and how many of them. -/
structure Collected where
  significand : Nat
  count : Nat
deriving DecidableEq, Repr

/-- Collects digits as long as the significand fits 64 bits. -/
def collect (c : Collected) : List Nat → Collected
  | [] => c
  | d :: rest =>
    let significand := c.significand * 10 + d
    if significand < Nat.pow 2 64 then collect ⟨significand, c.count + 1⟩ rest else c

/-- The digits read as one natural number. -/
def ofDigits (digits : List Nat) : Nat := digits.foldl (fun n d => n * 10 + d) 0

def powerOfTen (n : Nat) : Float := Float.ofScientific 1 false n

/-- Divides by `10 ^ places`, at most 308 places at a time, until nothing is left. -/
def divideBy (places : Nat) (f : Float) : Float :=
  if _ : places ≤ 308 then f / powerOfTen places
  else if f == 0 then f
  else divideBy (places - 308) (f / powerOfTen 308)
termination_by places

/-- The double `significand · 10 ^ exponent`; none if that exceeds every finite double. -/
def scale? (significand : Nat) (exponent : Int) : Option Float :=
  let f := significand.toUInt64.toFloat
  if exponent < 0 then some (divideBy (-exponent).toNat f)
  else if significand = 0 then some 0
  else if exponent ≤ 308 then
    let scaled := f * powerOfTen exponent.toNat
    if scaled.isInf then none else some scaled
  else none

end AuditTrail.Decimal
