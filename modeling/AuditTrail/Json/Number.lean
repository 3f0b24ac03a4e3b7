import AuditTrail.Decimal.Reading
import AuditTrail.Decimal.Shortest

/-! # JSON numbers

A numeral is what the grammar allows; a number is what it stands for. Numerals without fraction
and exponent that fit 64 bits, signed or unsigned, stay integers, and every other one is a double.
-/

namespace AuditTrail.Json

/-- A number as written: digits are numbers below ten. -/
structure Numeral where
  negative : Bool := false
  whole : List Nat
  /-- Digits after the point; none if there is no point. -/
  fraction : List Nat := []
  /-- Whether the exponent is negative, and its digits. -/
  exponent : Option (Bool × List Nat) := none
deriving DecidableEq, Repr

/-- A finite number: an integer of at most 64 bits or a double, given by its bits. -/
inductive Number
  | int (n : Int)
  | float (bits : UInt64)
deriving DecidableEq, Repr

namespace Number

def ofFloat (negative : Bool) (f : Float) : Number :=
  .float (if negative then (-f).toBits else f.toBits)

end Number

namespace Numeral

/-- The exponent that the numeral states, zero by default. -/
def statedExponent (n : Numeral) : Int :=
  match n.exponent with
  | none => 0
  | some (false, digits) => Decimal.ofDigits digits
  | some (true, digits) => -Decimal.ofDigits digits

def isInteger (n : Numeral) : Bool := n.fraction.isEmpty && n.exponent.isNone

/-- The number that a numeral stands for; none if it exceeds every finite double. -/
def number? (n : Numeral) : Option Number :=
  let whole := Decimal.collect ⟨0, 0⟩ n.whole
  if n.isInteger && whole.count == n.whole.length &&
      (!n.negative || (0 < whole.significand && whole.significand ≤ Nat.pow 2 63)) then
    some (.int (if n.negative then -whole.significand else whole.significand))
  else
    let all := Decimal.collect ⟨whole.significand, 0⟩ n.fraction
    let dropped := n.whole.length - whole.count
    let exponent : Int := dropped - all.count + n.statedExponent
    (Decimal.scale? all.significand exponent).map (Number.ofFloat n.negative)

end Numeral

/-! ## Written form -/

def digitChars (n : Nat) : List Char := n.repr.toList

def zeros (n : Nat) : List Char := List.replicate n '0'

/-- How doubles are written: a point always, an exponent from `10 ^ 16` on and below `10 ^ -5`. -/
structure FloatLayout where
  /-- The largest count of digits before the point. -/
  wholeDigits : Int := 16
  /-- The largest count of zeros after the point of a number below one. -/
  leadingZeros : Int := 4

/-- Digits and the power of ten of the last one, in a layout. -/
def FloatLayout.chars (layout : FloatLayout) (d : Decimal.Scaled) : List Char :=
  let digits := digitChars d.digits
  let point : Int := digits.length + d.exponent
  if 0 ≤ d.exponent ∧ point ≤ layout.wholeDigits then
    digits ++ zeros d.exponent.toNat ++ ['.', '0']
  else if 0 < point ∧ point ≤ layout.wholeDigits then
    digits.take point.toNat ++ '.' :: digits.drop point.toNat
  else if -layout.leadingZeros ≤ point ∧ point ≤ 0 then
    '0' :: '.' :: zeros (-point).toNat ++ digits
  else
    let power := point - 1
    let mantissa :=
      match digits with
      | [] => []
      | [lead] => [lead]
      | lead :: rest => lead :: '.' :: rest
    mantissa ++ 'e' :: (if power < 0 then '-' else '+') :: digitChars power.natAbs

def floatChars (bits : UInt64) : List Char :=
  let magnitude := ({} : FloatLayout).chars (Decimal.shortest (.ofBits bits))
  if Nat.pow 2 63 ≤ bits.toNat then '-' :: magnitude else magnitude

def intChars (n : Int) : List Char :=
  if n < 0 then '-' :: digitChars n.natAbs else digitChars n.natAbs

def Number.chars : Number → List Char
  | .int n => intChars n
  | .float bits => floatChars bits

end AuditTrail.Json
