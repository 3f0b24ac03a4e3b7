import AuditTrail.Entries
import AuditTrail.Text.Base64
import AuditTrail.Text.Utf8
import AuditTrail.Url.Basic

/-! # HTTP exchanges

A request, and a network that takes it to its host and brings back a status.
-/

namespace AuditTrail.Http

inductive Method
  | get
  | post
deriving DecidableEq, Repr

def Method.name : Method → String
  | get => "GET"
  | post => "POST"

structure Request where
  method : Method
  url : Url
  /-- Headers in the order in which they are sent, names in lower case. -/
  headers : List (String × String) := []
  body : Option String := none
deriving DecidableEq, Repr

/-- A network as part of a state: the status with which a host answers, unless it is not
reached. -/
structure Network (σ : Type) where
  send : Request → StateM σ (Option Nat)

/-- The value of a header that gives a name and a password. -/
def basicAuthorization (username : String) (password : Option String) : String :=
  "Basic " ++ String.ofList
    (Text.Base64.encode (Text.Utf8.encode (username ++ ":" ++ password.getD "")))

/-- The text that a percent coded part of a URL stands for. -/
def decodedText? (s : String) : Option String :=
  match Text.Utf8.decode (Url.decode s.toList) with
  | .ok cs => some (String.ofList cs)
  | .error _ => none

/-- Moves the name and the password of a URL into a header. -/
def Request.withoutUserInfo (r : Request) : Request :=
  match r.url.authority with
  | none => r
  | some a =>
    match a.hasUserInfo, decodedText? a.username with
    | true, some username =>
      { r with
        url := { r.url with authority := some { a with username := "", password := none } }
        headers :=
          ("authorization", basicAuthorization username (a.password.bind decodedText?)) ::
            r.headers }
    | _, _ => r

/-! ## Headers -/

def isTokenChar (c : Char) : Bool :=
  c.isAlphanum || ['!', '#', '$', '%', '&', '\'', '*', '+', '-', '.', '^', '_', '`', '|',
    '~'].contains c

/-- Whether a text can be the name of a header. -/
def isHeaderName (s : String) : Bool := !s.isEmpty && s.toList.all isTokenChar

/-- Whether a text can be the value of a header. -/
def isHeaderValue (s : String) : Bool :=
  s.toList.all fun c => c == '\t' || (0x20 ≤ c.toNat && c.toNat < 0x7F)

/-- The headers that can be sent. -/
def sendableHeaders (headers : Table String) : List (String × String) :=
  (headers.entries.filter fun h => isHeaderName h.1 && isHeaderValue h.2).map fun h =>
    (h.1.toLower, h.2)

end AuditTrail.Http
