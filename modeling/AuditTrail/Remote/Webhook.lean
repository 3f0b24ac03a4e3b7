import AuditTrail.Remote.Client
import AuditTrail.Remote.Format
import AuditTrail.Sink.Basic
import AuditTrail.Url.Reader

/-! # Webhooks

A sink that sends each record to one endpoint, with one request and without trying again.
-/

namespace AuditTrail.Remote

structure Webhook where
  /-- The name of the sink. -/
  name : String := "webhook"
  url : Url
  format : Format
  client : ClientOptions := {}
deriving DecidableEq, Repr

namespace Webhook

/-- A webhook at the URL that a text holds, blanks around it apart. -/
def ofUrl (text : String) (format : Format) : Except Error Webhook :=
  let text := Text.trim text
  if text.isEmpty then .error (.config "webhook URL cannot be empty")
  else
    match Url.ofText text with
    | .ok url => .ok { url, format }
    | .error fault => .error (.invalidUrl text fault)

def ofSettings (s : Sink.Settings) : Except Error Webhook := do
  let some url := s.text? "webhook.url" | throw (.config "webhook.url is required")
  let some format := s.text? "webhook.format" | throw (.config "webhook.format is required")
  let w ← ofUrl url (← Format.ofName format)
  pure { w with client := .ofSettings s "webhook" }

/-- The URL to which a record goes; its parameters follow those of the endpoint. -/
def target (w : Webhook) (query : Option String) : Url :=
  match query.filter fun q => !q.isEmpty with
  | none => w.url
  | some query =>
    match w.url.query.filter fun q => !q.isEmpty with
    | some own => w.url.withQuery (own ++ "&" ++ query)
    | none => w.url.withQuery query

/-- The request that delivers a record. -/
def request (w : Webhook) (r : Record) : Http.Request :=
  let payload := w.format.payload r
  { method := w.format.method
    url := w.target payload.query
    headers :=
      (payload.body.bind fun _ => w.format.contentType).toList.map ("content-type", ·)
    body := payload.body }

/-- Only one status tells that a record was taken. -/
def accepts (status : Nat) : Bool := status == 200

/-- Sends a record to the endpoint. -/
def deliver {σ : Type} (w : Webhook) (n : Http.Network σ) (r : Record) :
    StateM σ (Except Error Unit) := do
  match ← send n (w.request r) with
  | .error e => return .error e
  | .ok status =>
    return if accepts status then .ok () else .error (.status status w.url.text)

/-- A sink that sends to the endpoint. -/
def sink {σ : Type} (w : Webhook) (n : Http.Network σ) : Sink σ where
  name := w.name
  store _ r := return .ofExcept ((← w.deliver n r).mapError (Error.toDelivery w.name))

end Webhook

end AuditTrail.Remote
