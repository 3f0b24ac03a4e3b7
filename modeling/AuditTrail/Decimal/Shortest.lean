/-! # Shortest decimals

The fewest significant digits that name a binary floating-point number among its neighbours.
Exact arithmetic on natural numbers: a decimal names `m · 2 ^ q` if it lies in the interval of
reals that round to it, and of two decimals of equal length the nearer one is taken.
-/

namespace AuditTrail.Decimal

/-- A finite double as `mantissa · 2 ^ exponent`, its sign apart. -/
structure Binary where
  mantissa : Nat
  exponent : Int
deriving DecidableEq, Repr

/-- Reads the fields of a double's 64 bits. -/
def Binary.ofBits (bits : UInt64) : Binary :=
  let fraction : Nat := bits.toNat % Nat.pow 2 52
  let scale : Nat := bits.toNat / Nat.pow 2 52 % Nat.pow 2 11
  if scale = 0 then ⟨fraction, -1074⟩ else ⟨Nat.pow 2 52 + fraction, (scale : Int) - 1075⟩

/-- The value `digits · 10 ^ exponent`. -/
structure Scaled where
  digits : Nat
  exponent : Int
deriving DecidableEq, Repr

/-- The interval of reals that round to a double, and the double, over one denominator. -/
structure Rounding where
  low : Nat
  value : Nat
  high : Nat
  denominator : Nat
  /-- Whether the ends belong to the interval. -/
  closed : Bool

/-- Half a step each way; below a power of two the step is half as wide. -/
def Binary.rounding (b : Binary) : Rounding :=
  let narrow := b.mantissa = Nat.pow 2 52 ∧ -1074 < b.exponent
  let below := if narrow then 1 else 2
  let up := Nat.pow 2 b.exponent.toNat
  { low := (4 * b.mantissa - below) * up
    value := 4 * b.mantissa * up
    high := (4 * b.mantissa + 2) * up
    denominator := 4 * Nat.pow 2 (-b.exponent).toNat
    closed := b.mantissa % 2 = 0 }

namespace Rounding

/-- Whether `digits · 10 ^ exponent` rounds to the double. -/
def holds (r : Rounding) (d : Scaled) : Bool :=
  let x := d.digits * Nat.pow 10 d.exponent.toNat * r.denominator
  let unit := Nat.pow 10 (-d.exponent).toNat
  if r.closed then r.low * unit ≤ x && x ≤ r.high * unit
  else r.low * unit < x && x < r.high * unit

/-- The distance between the double and a decimal, over the denominators of both. -/
def distance (r : Rounding) (d : Scaled) : Nat :=
  let x := d.digits * Nat.pow 10 d.exponent.toNat * r.denominator
  let v := r.value * Nat.pow 10 (-d.exponent).toNat
  (x - v) + (v - x)

/-- The nearer of the two multiples of `10 ^ exponent` beside the double that round to it. -/
def onGrid? (r : Rounding) (exponent : Int) : Option Scaled :=
  let digits :=
    r.value * Nat.pow 10 (-exponent).toNat / (r.denominator * Nat.pow 10 exponent.toNat)
  let below : Scaled := ⟨digits, exponent⟩
  let above : Scaled := ⟨digits + 1, exponent⟩
  match r.holds below, r.holds above with
  | true, true =>
    let down := r.distance below
    let up := r.distance above
    some (if down < up || (down == up && digits % 2 == 0) then below else above)
  | true, false => some below
  | false, true => some above
  | false, false => none

end Rounding

/-- The exponent of the leading digit of `value / denominator`. -/
def leadingExponent (value denominator : Nat) : Int :=
  if denominator ≤ value then ((value / denominator).repr.length : Int) - 1
  else
    let zeros := (denominator / value).repr.length
    if denominator ≤ value * Nat.pow 10 (zeros - 1) then -((zeros : Int) - 1) else -(zeros : Int)

/-- Drops zeros at the end into the exponent. -/
def Scaled.stripped (d : Scaled) : Nat → Scaled
  | 0 => d
  | n + 1 =>
    if d.digits % 10 = 0 ∧ d.digits ≠ 0 then
      stripped ⟨d.digits / 10, d.exponent + 1⟩ n
    else d

/-- The fewest digits that round to a positive double, the nearest of those. -/
def shortest (b : Binary) : Scaled :=
  if b.mantissa = 0 then ⟨0, 0⟩
  else
    let r := b.rounding
    let top := leadingExponent r.value r.denominator
    let grids : List Int := (List.range 17).map fun n : Nat => top - (n : Int)
    ((grids.findSome? r.onGrid?).getD ⟨0, 0⟩).stripped 17

end AuditTrail.Decimal
