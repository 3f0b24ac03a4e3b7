import AuditTrail.Category
import AuditTrail.Json.Value

/-! # Configuration

The settings of the pipeline, their defaults, and what a usable configuration is.
-/

namespace AuditTrail

open Json (Value)

structure Config where
  /-- The key of the sink; none turns auditing off. -/
  sinkType : Option String := none
  enableRest : Bool := true
  enableTransport : Bool := true
  logRequestBody : Bool := true
  resolveBulkRequests : Bool := false
  resolveIndices : Bool := true
  disabledCategories : List String := []
  ignoreUsers : List String := ["kibanaserver"]
  ignoreRequests : List String := []
  /-- The number of workers; none of them, or a negative number, delivers synchronously. -/
  threadpoolSize : Int := 10
  threadpoolMaxQueueLen : Int := 100000
  shutdownGraceSeconds : Nat := 60
  configIndex : String := "searchguard"
  sink : Table Value := {}
deriving DecidableEq

namespace Config

def maxThreadpoolSize : Int := 1024

/-- The first rule that a configuration breaks. -/
def check (c : Config) : Except Error Unit :=
  if maxThreadpoolSize < c.threadpoolSize then
    .error (.config ("threadpool_size must be at most " ++ toString maxThreadpoolSize ++
      ", got " ++ toString c.threadpoolSize))
  else if c.threadpoolMaxQueueLen ≤ 0 then
    .error (.config "threadpool_max_queue_len must be positive")
  else if Text.isAllBlank c.configIndex then .error (.config "config_index cannot be empty")
  else if c.sinkType.any Text.isAllBlank then .error (.config "type cannot be blank")
  else .ok ()

/-- Whether a configuration is usable. -/
def isValid (c : Config) : Bool := (c.check matches .ok ())

/-- The settings under their names, in the order in which they are declared. -/
def members (c : Config) : List (String × Value) :=
  [("type", c.sinkType.elim .null .string),
    ("enable_rest", .bool c.enableRest),
    ("enable_transport", .bool c.enableTransport),
    ("log_request_body", .bool c.logRequestBody),
    ("resolve_bulk_requests", .bool c.resolveBulkRequests),
    ("resolve_indices", .bool c.resolveIndices),
    ("disabled_categories", .strings c.disabledCategories),
    ("ignore_users", .strings c.ignoreUsers),
    ("ignore_requests", .strings c.ignoreRequests),
    ("threadpool_size", .number (.int c.threadpoolSize)),
    ("threadpool_max_queue_len", .number (.int c.threadpoolMaxQueueLen)),
    ("shutdown_grace_period_secs", .number (.int c.shutdownGraceSeconds)),
    ("config_index", .string c.configIndex),
    ("sink", .ofTable c.sink)]

end Config

end AuditTrail
