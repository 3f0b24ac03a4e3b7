import AuditTrail.Http.Exchange
import AuditTrail.Remote.Error
import AuditTrail.Sink.Settings

/-! # HTTP clients of sinks

The options of a client, the certificates that it trusts, and how it sends a request.
-/

namespace AuditTrail.Remote

/-- What reading a file gives: its octets, or why they cannot be had. -/
abbrev Files := String → Except String (List UInt8)

structure ClientOptions where
  timeoutMillis : Nat := 5000
  verifyTls : Bool := true
  /-- A file of certificates to trust beside the usual ones. -/
  trustedCas : Option String := none
  systemProxy : Bool := true
deriving DecidableEq, Repr

namespace ClientOptions

/-- Reads the settings of a group. -/
def ofSettings (s : Sink.Settings) (group : String) : ClientOptions where
  verifyTls := (s.bool? (group ++ ".ssl.verify")).getD true
  trustedCas := s.text? (group ++ ".ssl.pem_trustedcas_filepath")
  systemProxy := (s.bool? (group ++ ".use_system_proxy")).getD true

/-- The line with which a certificate begins. -/
def certificateStart : List UInt8 := Text.Utf8.encode "-----BEGIN CERTIFICATE-----"

/-- Whether a certificate begins somewhere in the octets. -/
def holdsCertificate : List UInt8 → Bool
  | [] => false
  | octet :: rest => certificateStart.isPrefixOf (octet :: rest) || holdsCertificate rest

/-- Checks that the file of trusted certificates can be read and holds one. -/
def check (o : ClientOptions) (files : Files) : Except Error Unit :=
  match o.trustedCas with
  | none => .ok ()
  | some path =>
    match files path with
    | .error reason => .error (.certificate path reason)
    | .ok octets =>
      if holdsCertificate octets then .ok ()
      else .error (.certificate path "no certificates found")

end ClientOptions

/-- Whether a host can be named in a request, which some marks cannot. -/
def isRequestHost (host : String) : Bool :=
  host.toList.all fun c => !(['"', '`', '{', '}'].contains c)

/-- Sends a request, and gives the status of the answer. Only HTTP is spoken. -/
def send {σ : Type} (n : Http.Network σ) (request : Http.Request) :
    StateM σ (Except Error Nat) := do
  let r := request.withoutUserInfo
  let failed (what : String) : Except Error Nat :=
    .error (.transport (what ++ " for url (" ++ r.url.text ++ ")"))
  if !(["http", "https"].contains r.url.scheme &&
      r.url.authority.any fun a => isRequestHost a.host) then
    return failed "builder error"
  match ← n.send r with
  | some status => return .ok status
  | none => return failed "error sending request"

end AuditTrail.Remote
