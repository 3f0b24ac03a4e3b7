/-! # Ranges of code points

Sets of characters as ascending ranges of code points, written in hexadecimal text such as
`41-5A 61-7A AA`.
-/

namespace AuditTrail.Text

/-- Ranges in ascending order: first and last code point of each. -/
structure Ranges where
  list : List (Nat × Nat)
deriving Inhabited

namespace Ranges

/-- A range under construction: the finished ranges, last first, the first code point of the
open one, and the digits of the code point being read. -/
structure Reading where
  done : List (Nat × Nat) := []
  first : Option Nat := none
  code : Option Nat := none

namespace Reading

/-- Ends the code point being read, and with it the open range. -/
def finish (r : Reading) : Reading :=
  match r.code with
  | none => r
  | some n => { done := (r.first.getD n, n) :: r.done }

def digit (r : Reading) (d : Nat) : Reading := { r with code := some (r.code.getD 0 * 16 + d) }

def step (r : Reading) (c : Char) : Reading :=
  if c.isDigit then r.digit (c.toNat - 0x30)
  else if 'A' ≤ c && c ≤ 'F' then r.digit (c.toNat - 0x37)
  else if c == '-' then { r with first := r.code, code := none }
  else r.finish

end Reading

def ofText (s : String) : Ranges := ⟨(s.toList.foldl Reading.step {}).finish.done.reverse⟩

/-- Looks no further than the first range that lies beyond. -/
def holds (n : Nat) : List (Nat × Nat) → Bool
  | [] => false
  | (low, high) :: rest => if n < low then false else n ≤ high || holds n rest

def contains (r : Ranges) (c : Char) : Bool := holds c.toNat r.list

end Ranges

end AuditTrail.Text
