import AuditTrail.Json.Printer
import AuditTrail.Record.Basic

/-! # Renderings of records

Records as lines of text and as JSON text, with members in the order of the fields or in the
order of their names.
-/

namespace AuditTrail

/-- Text stands for itself, any other value for its JSON text. -/
def Json.Value.display : Json.Value → String
  | .string s => s
  | v => v.compact

namespace Record

/-- The entries with their values as text. -/
def strings (r : Record) : List (Field × String) := r.entries.map fun e => (e.1, e.2.display)

/-- The entries that have text to show. -/
def shown (r : Record) : List (Field × String) := r.strings.filter fun e => !e.2.isEmpty

def line (e : Field × String) : String := e.1.label ++ ": " ++ e.2 ++ "\n"

/-- One line for each entry that has text to show. -/
def toText (r : Record) : String := String.join (r.shown.map line)

/-- JSON text with members in ascending order of names. -/
def json (r : Record) : String := r.toValue.compact

/-- JSON text with members in the order of the fields; a stored category or time comes again. -/
def serialized (r : Record) : String := (Json.Value.object r.members).compact

/-- The same, indented. -/
def serializedPretty (r : Record) : String := (Json.Value.object r.members).pretty

end Record

end AuditTrail
