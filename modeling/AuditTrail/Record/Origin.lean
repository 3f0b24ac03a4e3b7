import AuditTrail.Text.Blank

/-! # Origins

The layer at which a request entered.
-/

namespace AuditTrail

inductive Origin
  | rest
  | transport
deriving DecidableEq, Repr

namespace Origin

def tag : Origin → String
  | rest => "rest"
  | transport => "transport"

/-- The origin with a tag, blanks around it and the case of ASCII letters apart. -/
def ofTag? (s : String) : Option Origin :=
  let tag := (Text.trim s).toLower
  if tag = "rest" then some rest else if tag = "transport" then some transport else none

end Origin

end AuditTrail
