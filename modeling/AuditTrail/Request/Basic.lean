import AuditTrail.Entries
import AuditTrail.Request.Operation

/-! # Requests of either layer -/

namespace AuditTrail

/-- A request over HTTP. -/
structure RestRequest where
  method : String := ""
  path : String := ""
  params : Table String := {}
  body : Payload := none
deriving DecidableEq

/-- A request as the host hands it over. -/
inductive Request
  | rest (r : RestRequest)
  | transport (action : String) (operation : Operation)

end AuditTrail
