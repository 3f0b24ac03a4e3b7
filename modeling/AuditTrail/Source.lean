import AuditTrail.Json.Printer
import AuditTrail.Json.Tree
import AuditTrail.Text.Utf8

/-! # Payloads as text

A payload that is JSON is written compactly with its members in order. Other text stays as it
is, and where the octets are no text the reason stands for them.
-/

namespace AuditTrail.Source

open Json (Value)
open Text (Utf8.decode)

/-- The JSON value that a payload holds. -/
def value? (octets : List UInt8) : Option Value :=
  match Utf8.decode octets with
  | .ok cs => Value.ofChars? cs
  | .error _ => none

def text (octets : List UInt8) : String :=
  match Utf8.decode octets with
  | .ok cs =>
    match Value.ofChars? cs with
    | some v => v.compact
    | none => String.ofList cs
  | .error fault => "unable to decode request body: " ++ fault.message

/-- The value that stands for a payload within a larger one. -/
def part (octets : List UInt8) : Value := (value? octets).getD (.string (text octets))

/-- One object of the parts that are present; none if there are none. -/
def combine (parts : List (String × Option (List UInt8))) : Option String :=
  let present := parts.filterMap fun p => p.2.map fun octets => (p.1, part octets)
  if present.isEmpty then none else some (Value.object (Entries.ofList present)).compact

end AuditTrail.Source
