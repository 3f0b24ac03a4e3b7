import AuditTrail.Config.Basic
import AuditTrail.Pattern.Basic
import AuditTrail.Record.Origin

/-! # Filter

Which events are recorded at all.
-/

namespace AuditTrail

/-- The part of a configuration that decides about events and their records. -/
structure Filter where
  engine : Pattern.Engine := Pattern.Regex.engine
  restEnabled : Bool
  transportEnabled : Bool
  includeDetails : Bool
  resolveBulk : Bool
  resolveIndices : Bool
  disabled : List Category
  ignoredUsers : Pattern.Any
  ignoredRequests : Pattern.Any
  configIndex : String

namespace Filter

/-- Names of categories that do not exist are left out. -/
def ofConfig (e : Pattern.Engine) (c : Config) : Filter where
  engine := e
  restEnabled := c.enableRest
  transportEnabled := c.enableTransport
  includeDetails := c.logRequestBody
  resolveBulk := c.resolveBulkRequests
  resolveIndices := c.resolveIndices
  disabled := c.disabledCategories.filterMap Category.ofName?
  ignoredUsers := .ofTexts e c.ignoreUsers
  ignoredRequests := .ofTexts e c.ignoreRequests
  configIndex := c.configIndex

/-- What the filter looks at. -/
structure Subject where
  category : Category
  origin : Origin
  action : Option String := none
  effectiveUser : Option String := none
  requestType : Option String := none
  restPath : Option String := none
deriving DecidableEq, Repr

def Subject.transport (category : Category) (action effectiveUser requestType : Option String) :
    Subject :=
  { category, origin := .transport, action, effectiveUser, requestType }

def Subject.rest (category : Category) (restPath effectiveUser : Option String) : Subject :=
  { category, origin := .rest, restPath, effectiveUser }

/-- What the names of a store's own actions start with. -/
def internalActionStarts : List String := ["internal:", "cluster:monitor", "indices:monitor"]

def isInternalAction (action : String) : Bool :=
  internalActionStarts.any fun start => start.isPrefixOf action

def layerEnabled (f : Filter) : Origin → Bool
  | .rest => f.restEnabled
  | .transport => f.transportEnabled

/-- The names under which a request may be ignored. -/
def Subject.requestNames (s : Subject) : List String :=
  match s.origin with
  | .transport => s.action.toList ++ s.requestType.toList
  | .rest => s.restPath.toList

/-- Whether an event is recorded. -/
def admits (f : Filter) (flags : CategoryFlags) (s : Subject) : Bool :=
  (f.layerEnabled s.origin || s.category.isSecurityCritical) &&
    !(s.origin == .transport && s.action.any isInternalAction) &&
    !s.effectiveUser.any f.ignoredUsers.accepts &&
    !s.requestNames.any f.ignoredRequests.accepts &&
    !f.disabled.contains s.category &&
    flags.enabled s.category

end Filter

end AuditTrail
