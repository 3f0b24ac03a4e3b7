import AuditTrail.Error
import AuditTrail.Json.Value
import AuditTrail.Text.Blank
import AuditTrail.Text.Split

/-! # Settings of sinks

What a configuration says about its sink. A setting is found under its whole dotted path, or
else along the path through nested objects.
-/

namespace AuditTrail.Sink

open Json (Value)

abbrev Settings := Table Value

namespace Settings

/-- The settings that a value holds; a value that is no object holds none. -/
def ofValue : Value → Settings
  | .object members => .ofList members
  | _ => {}

/-- The value at the end of a path through nested objects. -/
def walk? (s : Settings) : List String → Option Value
  | [] => none
  | name :: rest => (s.find? name).bind fun v => rest.foldlM Value.member? v

/-- The value of a setting. -/
def get? (s : Settings) (path : String) : Option Value :=
  match s.find? path with
  | some v => some v
  | none => s.walk? (Text.split '.' path)

/-- The text of a setting without blanks around it, unless nothing remains. -/
def text? (s : Settings) (path : String) : Option String :=
  (((s.get? path).bind Value.string?).map Text.trim).filter fun t => !t.isEmpty

/-- A setting that is on or off, as a truth value or in words. -/
def bool? (s : Settings) (path : String) : Option Bool :=
  match s.get? path with
  | some (.bool b) => some b
  | some (.string t) =>
    if Text.trim t = "true" then some true
    else if Text.trim t = "false" then some false
    else none
  | _ => none

/-- The text of a setting that has to be there. -/
def requireText (s : Settings) (path : String) : Except Error String :=
  match s.text? path with
  | some t => .ok t
  | none => .error (.config ("sink setting '" ++ path ++ "' is required"))

end Settings

end AuditTrail.Sink
