import AuditTrail.Http.Exchange
import AuditTrail.Record.Rendering
import AuditTrail.Remote.Error
import AuditTrail.Url.Form

/-! # Webhook formats

The ways in which a record is written for an endpoint: as parameters of its URL, as text, as
JSON, or as the text of a message.
-/

namespace AuditTrail.Remote

inductive Format
  | urlParameterGet
  | urlParameterPost
  | text
  | json
  | slack
deriving DecidableEq, Repr

namespace Format

def all : List Format := [urlParameterGet, urlParameterPost, text, json, slack]

def name : Format → String
  | urlParameterGet => "URL_PARAMETER_GET"
  | urlParameterPost => "URL_PARAMETER_POST"
  | text => "TEXT"
  | json => "JSON"
  | slack => "SLACK"

/-- The format of a name, blanks around it and the case of ASCII letters apart; a hyphen counts
as an underscore. -/
def ofName (s : String) : Except Error Format :=
  let plain := (Text.trim s).toUpper.map fun c => if c = '-' then '_' else c
  match all.find? fun f => f.name == plain with
  | some f => .ok f
  | none => .error (.unknownFormat s)

def method : Format → Http.Method
  | urlParameterGet => .get
  | _ => .post

/-- The type of the body, if there is a body. -/
def contentType : Format → Option String
  | urlParameterGet | urlParameterPost => none
  | text => some "text/plain; charset=utf-8"
  | json | slack => some "application/json"

end Format

/-- A record as written for an endpoint. -/
structure Payload where
  query : Option String := none
  body : Option String := none
deriving DecidableEq, Repr

/-- The entries that have text to show, by their names on the wire. -/
def parameters (r : Record) : List (String × String) := r.shown.map fun e => (e.1.key, e.2)

def Format.payload (r : Record) : Format → Payload
  | urlParameterGet | urlParameterPost => { query := some (Url.Form.encode (parameters r)) }
  | text => { body := some r.toText }
  | json => { body := some r.json }
  | slack => { body := some (Json.Value.object [("text", .string r.toText)]).compact }

end AuditTrail.Remote
