import AuditTrail.Text.Blank
import AuditTrail.Text.CodeGroups
import AuditTrail.Text.Property.Binary
import AuditTrail.Text.Property.CaseVariants
import AuditTrail.Text.Property.Category

/-! # Character classes

Sets of characters built from ranges, Unicode properties and the operations on sets. Membership
follows the construction.
-/

namespace AuditTrail.Text

/-! ## Case variants -/

/-- The groups of characters that differ in case alone. -/
def caseGroups : List (List Nat) := codeGroups Property.caseGroupsText

/-- The characters that differ from one in case alone, itself included. -/
def caseVariants (c : Char) : List Char :=
  match caseGroups.find? (·.contains c.toNat) with
  | some group => group.map Char.ofNat
  | none => [c]

/-! ## Classes -/

inductive CharClass
  | nothing
  | anything
  | between (low high : Char)
  | ranges (r : Ranges)
  | union (a b : CharClass)
  | intersection (a b : CharClass)
  | difference (a b : CharClass)
  | symmetricDifference (a b : CharClass)
  | complement (a : CharClass)
  /-- The characters of a class and all that differ from one of them in case alone. -/
  | anyCase (a : CharClass)
deriving Inhabited

namespace CharClass

def contains : CharClass → Char → Bool
  | nothing, _ => false
  | anything, _ => true
  | between low high, c => low ≤ c && c ≤ high
  | ranges r, c => r.contains c
  | union a b, c => a.contains c || b.contains c
  | intersection a b, c => a.contains c && b.contains c
  | difference a b, c => a.contains c && !b.contains c
  | symmetricDifference a b, c => a.contains c != b.contains c
  | complement a, c => !a.contains c
  | anyCase a, c => (caseVariants c).any a.contains

def one (c : Char) : CharClass := between c c

/-- The union of a list of classes. -/
def unions (classes : List CharClass) : CharClass := classes.foldr union nothing

def ofPairs (pairs : List (Char × Char)) : CharClass := unions (pairs.map fun p => between p.1 p.2)

def ascii : CharClass := between '\x00' '\x7f'

/-! ## Classes with a letter of their own -/

def digit : CharClass := ranges Property.decimalNumber

def blank : CharClass := ranges Property.whiteSpace

/-- Letters, marks, decimal digits, connectors and joiners. -/
def word : CharClass :=
  unions <| [Property.alphabetic, Property.nonspacingMark, Property.spacingMark,
    Property.enclosingMark, Property.decimalNumber, Property.connectorPunctuation,
    Property.joinControl].map ranges

def asciiDigit : CharClass := between '0' '9'

def asciiBlank : CharClass := ofPairs [('\t', '\r'), (' ', ' ')]

def asciiWord : CharClass := ofPairs [('0', '9'), ('A', 'Z'), ('_', '_'), ('a', 'z')]

/-- The class with a name between colons, as in `[:alpha:]`. -/
def posix? (name : String) : Option CharClass :=
  (match name with
  | "alnum" => some [('0', '9'), ('A', 'Z'), ('a', 'z')]
  | "alpha" => some [('A', 'Z'), ('a', 'z')]
  | "ascii" => some [('\x00', '\x7f')]
  | "blank" => some [('\t', '\t'), (' ', ' ')]
  | "cntrl" => some [('\x00', '\x1f'), ('\x7f', '\x7f')]
  | "digit" => some [('0', '9')]
  | "graph" => some [('!', '~')]
  | "lower" => some [('a', 'z')]
  | "print" => some [(' ', '~')]
  | "punct" => some [('!', '/'), (':', '@'), ('[', '\x60'), ('\x7b', '~')]
  | "space" => some [('\t', '\r'), (' ', ' ')]
  | "upper" => some [('A', 'Z')]
  | "word" => some [('0', '9'), ('A', 'Z'), ('_', '_'), ('a', 'z')]
  | "xdigit" => some [('0', '9'), ('A', 'F'), ('a', 'f')]
  | _ => none).map ofPairs

end CharClass

end AuditTrail.Text
