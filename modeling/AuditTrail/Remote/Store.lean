import AuditTrail.Json.Printer
import AuditTrail.Remote.Client
import AuditTrail.Sink.Storage
import AuditTrail.Text.Quoted
import AuditTrail.Url.Reader

/-! # Remote document stores

A document store behind HTTP: each document is posted below a base URL, under its index and its
type.
-/

namespace AuditTrail.Remote

structure Credentials where
  username : String
  password : Option String := none
deriving DecidableEq

/-- A description in which the password cannot be seen. -/
def Credentials.description (c : Credentials) : String :=
  String.join ["Credentials \x7b username: ", Text.quoted c.username, ", password: ",
    if c.password.isSome then "Some(\"***\")" else "None", " \x7d"]

structure Store where
  base : Url
  credentials : Option Credentials := none
  client : ClientOptions := {}
deriving DecidableEq

namespace Store

/-- The name under which failures of the store are told. -/
def sinkName : String := "external_elasticsearch"

/-- A store at the URL that a text holds, blanks around it apart. -/
def ofUrl (text : String) (client : ClientOptions) : Except Error Store :=
  match Url.ofText (Text.trim text) with
  | .error fault => .error (.invalidUrl text fault)
  | .ok base =>
    if base.hasPlainPath then .error (.invalidUrl text .relativeToPlainPath)
    else .ok { base, client }

/-- The URL to which a document is posted. -/
def documentUrl (s : Store) (index docType : String) : Url := s.base.below [index, docType]

/-- The request that writes a document. -/
def request (s : Store) (d : Document) : Http.Request where
  method := .post
  url := s.documentUrl d.index d.docType
  headers :=
    ("content-type", "application/json") :: Http.sendableHeaders d.headers ++
      s.credentials.toList.map fun c =>
        ("authorization", Http.basicAuthorization c.username c.password)
  body := some d.body.compact

/-- Any status of success tells that a document was taken. -/
def accepts (status : Nat) : Bool := 200 ≤ status && status < 300

/-- Posts a document. -/
def post {σ : Type} (s : Store) (n : Http.Network σ) (d : Document) :
    StateM σ (Except Error Unit) := do
  match ← send n (s.request d) with
  | .error e => return .error e
  | .ok status =>
    return if accepts status then .ok ()
      else .error (.status status (s.documentUrl d.index d.docType).text)

/-- The store as a place for documents. -/
def documents {σ : Type} (s : Store) (n : Http.Network σ) : DocumentStore σ where
  write d := return (← s.post n d).mapError (Error.toDelivery sinkName)

/-- Reads the settings of the group `external`. -/
def ofSettings (s : Sink.Settings) : Except AuditTrail.Error Store := do
  let some url := s.text? "external.url" | throw (.config "external.url is required")
  let store ← (ofUrl url (.ofSettings s "external")).mapError Error.toError
  pure
    { store with
      credentials := (s.text? "external.username").map fun username =>
        { username, password := s.text? "external.password" } }

end Store

end AuditTrail.Remote
