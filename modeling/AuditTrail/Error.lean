/-! # Errors

Why a configuration, a sink or a delivery was refused, and the wording of each cause.
-/

namespace AuditTrail

inductive Error
  | config (reason : String)
  | invalidCategory (name : String)
  | unknownSink (key : String)
  | sinkCreation (key reason : String)
  | delivery (sink reason : String)
  | rejected (reason : String)
  | serialization (detail : String)
  | io (detail : String)
deriving DecidableEq, Repr

def Error.message : Error → String
  | config reason => "invalid audit configuration: " ++ reason
  | invalidCategory name => "unknown audit category: " ++ name
  | unknownSink key => "no audit sink registered for type '" ++ key ++ "'"
  | sinkCreation key reason => "failed to create audit sink '" ++ key ++ "': " ++ reason
  | delivery sink reason => "audit sink '" ++ sink ++ "' failed to deliver record: " ++ reason
  | rejected reason => "audit record rejected: " ++ reason
  | serialization detail => "serialization error: " ++ detail
  | io detail => "i/o error: " ++ detail

end AuditTrail
