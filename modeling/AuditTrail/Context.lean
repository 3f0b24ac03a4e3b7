import AuditTrail.Json.Tree
import AuditTrail.Record.Origin

/-! # Request context

Who sends a request, from where, and through which layer. A value that a caller states wins over
the value of the context, and that over the value another node passed on in a header.
-/

namespace AuditTrail

/-- A task, and the task that started it. -/
structure Task where
  id : String
  parentId : Option String := none
deriving DecidableEq, Repr

/-- What headers of the pipeline's own start with. -/
def internalHeaderStart : String := "_vigil_"

def userHeader : String := "_vigil_user"

def remoteAddressHeader : String := "_vigil_remote_address"

def originHeader : String := "_vigil_origin"

/-- The header that marks writes of the pipeline itself. -/
def internalWriteHeader : String := "_vigil_audit_internal"

/-- Whether headers mark a write of the pipeline itself. -/
def marksInternalWrite (headers : Table String) : Bool :=
  match headers.find? internalWriteHeader with
  | some v => v.toLower == "true"
  | none => false

structure Context where
  origin : Option Origin := none
  user : Option String := none
  remoteAddress : Option String := none
  headers : Table String := {}
  task : Option Task := none
deriving DecidableEq

namespace Context

/-- What a header's text stands for: a JSON string for its text, a JSON object for the text of
its member `name`, and any other text for itself. -/
def headerText (raw : String) : Option String :=
  match Json.Value.ofText? raw with
  | some (.string s) => some s
  | some (.object members) => (Entries.find? "name" members).bind Json.Value.string?
  | _ => some raw

/-- The value of a header, unless it is empty. -/
def header? (ctx : Context) (key : String) : Option String :=
  ((ctx.headers.find? key).bind headerText).filter fun s => !s.isEmpty

def resolveUser (ctx : Context) (stated : Option String) : Option String :=
  (stated <|> ctx.user) <|> ctx.header? userHeader

def resolveRemoteAddress (ctx : Context) : Option String :=
  ctx.remoteAddress <|> ctx.header? remoteAddressHeader

def resolveOrigin (ctx : Context) (stated : Option Origin) : Option Origin :=
  (stated <|> ctx.origin) <|> (ctx.header? originHeader).bind Origin.ofTag?

def isInternalWrite (ctx : Context) : Bool := marksInternalWrite ctx.headers

/-- The headers that a record may show. -/
def auditHeaders (ctx : Context) : Table String :=
  ctx.headers.filter fun key => !internalHeaderStart.isPrefixOf key

end Context

end AuditTrail
