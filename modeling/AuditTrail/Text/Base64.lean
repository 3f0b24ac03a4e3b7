/-! # Base 64

Octets as letters, digits, `+` and `/`, three octets as four characters, filled up with `=`.
-/

namespace AuditTrail.Text.Base64

def digit (n : Nat) : Char :=
  if n < 26 then Char.ofNat (0x41 + n)
  else if n < 52 then Char.ofNat (0x61 + (n - 26))
  else if n < 62 then Char.ofNat (0x30 + (n - 52))
  else if n = 62 then '+' else '/'

/-- The first `count` of the four digits of three octets. -/
def digits (count : Nat) (a b c : UInt8) : List Char :=
  let n := a.toNat * 0x10000 + b.toNat * 0x100 + c.toNat
  ([18, 12, 6, 0].take count).map fun shift => digit (n / Nat.pow 2 shift % 64)

def encode : List UInt8 → List Char
  | [] => []
  | [a] => digits 2 a 0 0 ++ ['=', '=']
  | [a, b] => digits 3 a b 0 ++ ['=']
  | a :: b :: c :: rest => digits 4 a b c ++ encode rest

end AuditTrail.Text.Base64
