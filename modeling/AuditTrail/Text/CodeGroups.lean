/-! # Groups of code points

Lists of code points in hexadecimal text, with commas between the lists.
-/

namespace AuditTrail.Text

/-- Groups of code points under construction, last first. -/
structure GroupReading where
  groups : List (List Nat) := []
  codes : List Nat := []
  code : Option Nat := none

namespace GroupReading

def finishCode (r : GroupReading) : GroupReading :=
  { r with codes := r.code.toList ++ r.codes, code := none }

def finishGroup (r : GroupReading) : GroupReading :=
  { groups := r.finishCode.codes.reverse :: r.groups }

def step (r : GroupReading) (c : Char) : GroupReading :=
  if c.isDigit then { r with code := some (r.code.getD 0 * 16 + (c.toNat - 0x30)) }
  else if 'A' ≤ c && c ≤ 'F' then
    { r with code := some (r.code.getD 0 * 16 + (c.toNat - 0x37)) }
  else if c == ',' then r.finishGroup
  else r.finishCode

end GroupReading

/-- The groups that a text writes. -/
def codeGroups (text : String) : List (List Nat) :=
  (text.toList.foldl GroupReading.step {}).finishGroup.groups.reverse

end AuditTrail.Text
