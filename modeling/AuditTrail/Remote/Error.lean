import AuditTrail.Error
import AuditTrail.Url.Error

/-! # Errors of remote sinks

Why an endpoint cannot be used or a record did not reach it, and how that is told to the rest of
the pipeline.
-/

namespace AuditTrail.Remote

inductive Error
  | config (reason : String)
  | invalidUrl (url : String) (fault : Url.Fault)
  | unknownFormat (name : String)
  | certificate (path reason : String)
  | transport (detail : String)
  | executor (reason : String)
  | status (code : Nat) (url : String)
  | serialization (detail : String)
deriving DecidableEq, Repr

namespace Error

def message : Error → String
  | config reason => "invalid sink configuration: " ++ reason
  | invalidUrl url fault => "invalid endpoint url '" ++ url ++ "': " ++ fault.message
  | unknownFormat name => "unknown webhook format: " ++ name
  | certificate path reason =>
    "failed to load trusted certificates from " ++ path ++ ": " ++ reason
  | transport detail => "http transport error: " ++ detail
  | executor reason => "http executor unavailable: " ++ reason
  | status code url => "unexpected http status " ++ toString code ++ " from " ++ url
  | serialization detail => "serialization error: " ++ detail

/-- What a failure to set a sink up is to the pipeline. -/
def toError : Error → AuditTrail.Error
  | config reason => .config reason
  | serialization detail => .serialization detail
  | e => .config e.message

/-- What a failure to deliver is to the pipeline. -/
def toDelivery (sink : String) (e : Error) : AuditTrail.Error := .delivery sink e.message

end Error

end AuditTrail.Remote
