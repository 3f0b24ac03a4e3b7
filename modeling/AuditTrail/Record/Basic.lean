import AuditTrail.Category
import AuditTrail.Json.Value
import AuditTrail.Record.Field
import AuditTrail.Record.Origin
import AuditTrail.Time

/-! # Audit records

A record says when an event of a category happened, and has a value for some of the fields.
Records grow by setters that leave the record alone when there is nothing to say.
-/

namespace AuditTrail

open Json (Value)

structure Record where
  category : Category
  created : Instant
  value? : Field → Option Value := fun _ => none

namespace Record

/-- Stores a value, whatever was stored for the field before. -/
def store (r : Record) (f : Field) (v : Value) : Record :=
  { r with value? := fun g => if g = f then some v else r.value? g }

/-- Stores text unless it is empty. -/
def text (r : Record) (f : Field) : Option String → Record
  | none => r
  | some s => if s.isEmpty then r else r.store f (.string s)

def flag (r : Record) (f : Field) : Option Bool → Record
  | none => r
  | some b => r.store f (.bool b)

/-- Stores a list unless it is empty. -/
def list (r : Record) (f : Field) : List String → Record
  | [] => r
  | items => r.store f (.strings items)

/-- Stores a table unless it is empty. -/
def table (r : Record) (f : Field) (t : Table String) : Record :=
  match t.entries with
  | [] => r
  | entries => r.store f (.object (entries.map fun entry => (entry.1, .string entry.2)))

/-- Stores a value unless it is null. -/
def value (r : Record) (f : Field) : Value → Record
  | .null => r
  | v => r.store f v

def origin (r : Record) (o : Origin) : Record := r.text .origin (some o.tag)

/-- The text of a field whose value is text. -/
def string? (r : Record) (f : Field) : Option String := (r.value? f).bind Value.string?

def contains (r : Record) (f : Field) : Bool :=
  f == .category || f == .timestamp || (r.value? f).isSome

/-- The category and the time, then the stored fields in their order. -/
def entries (r : Record) : List (Field × Value) :=
  (.category, .string r.category.name) :: (.timestamp, .string r.created.text) ::
    Field.all.filterMap fun f => (r.value? f).map (f, ·)

/-- The entries under their names on the wire. -/
def members (r : Record) : List (String × Value) := r.entries.map fun e => (e.1.key, e.2)

/-- The record as a JSON object. -/
def toValue (r : Record) : Value := .object (Entries.ofList r.members)

end Record

end AuditTrail
