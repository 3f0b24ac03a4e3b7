import AuditTrail.Text.Property.Binary
import AuditTrail.Text.Property.Category

/-! # Quoted text

Text in quotes for people to read: every character that cannot be seen by itself is written as
an escape.
-/

namespace AuditTrail.Text

/-- Characters that are not seen: other blanks than a space, controls, and codes without use. -/
def unseen : List Ranges :=
  [Property.spaceSeparator, Property.lineSeparator, Property.paragraphSeparator,
    Property.control, Property.format, Property.privateUse, Property.unassigned]

/-- Whether a character is seen by itself. -/
def isSeen (c : Char) : Bool :=
  c == ' ' || !(Property.graphemeExtend.contains c || unseen.any fun r => r.contains c)

def escapeUnseen (c : Char) : List Char :=
  match c with
  | '\x00' => ['\\', '0']
  | '\t' => ['\\', 't']
  | '\n' => ['\\', 'n']
  | '\r' => ['\\', 'r']
  | '"' => ['\\', '"']
  | '\\' => ['\\', '\\']
  | c =>
    if isSeen c then [c]
    else ['\\', 'u', '{'] ++ (Nat.toDigits 16 c.toNat).map Char.toLower ++ ['}']

/-- The text between quotes. -/
def quoted (s : String) : String :=
  String.ofList ('"' :: s.toList.flatMap escapeUnseen ++ ['"'])

end AuditTrail.Text
