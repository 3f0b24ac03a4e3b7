import AuditTrail.Filter
import AuditTrail.Log.Report
import AuditTrail.Source
import AuditTrail.Text.Split

/-! # From reports to records

The records of a report: none for the pipeline's own writes and for what the filter rejects, one
for a request over HTTP, and those of the resolver for any other request.
-/

namespace AuditTrail

/-- The names in a path. Those that start with an underscore are no names of indices. -/
def namesInPath (path : String) : List String :=
  ((Text.split '/' path).flatMap (Text.split ',')).filter fun name =>
    !name.isEmpty && !"_".isPrefixOf name

/-- Whether a path names a protected index. -/
def pathConcernsIndex (e : Pattern.Engine) (protectedIndex path : String) : Bool :=
  (namesInPath path).any (concernsIndex e protectedIndex)

/-- What decides about the records of a report. -/
structure Recorder where
  filter : Filter
  resolver : Resolver

namespace Recorder

/-- The body that a record of a request over HTTP may show. -/
def shownBody (f : Filter) (r : RestRequest) : Option String :=
  if f.includeDetails && !pathConcernsIndex f.engine f.configIndex r.path then
    r.body.map Source.text
  else none

/-- The record of a request over HTTP. -/
def restRecord (f : Filter) (now : Instant) (event : Event) (r : RestRequest) (ctx : Context) :
    Record :=
  ({ category := event.category, created := now } : Record)
    |>.origin .rest
    |>.text .effectiveUser (ctx.resolveUser event.effectiveUser)
    |>.text .initiatingUser event.initiatingUser
    |>.flag .effectiveUserIsAdmin event.isAdmin
    |>.text .remoteAddress ctx.resolveRemoteAddress
    |>.text .privilege event.privilege
    |>.text .restPath (some r.path)
    |>.table .restParams r.params
    |>.text .requestBody (shownBody f r)
    |>.table .headers ctx.auditHeaders
    |>.text .details event.details

/-- What is known of an event, from its report, its request and its context. -/
def fullEvent (event : Event) (action : String) (ctx : Context) : Event :=
  { event with
    origin := (ctx.resolveOrigin none).getD .transport
    action := some action
    effectiveUser := ctx.resolveUser event.effectiveUser
    remoteAddress := ctx.resolveRemoteAddress
    headers := ctx.auditHeaders
    task := ctx.task }

/-- What the filter looks at. -/
def subject (event : Event) (request : Request) (ctx : Context) : Filter.Subject :=
  let user := ctx.resolveUser event.effectiveUser
  match request with
  | .rest r => .rest event.category (some r.path) user
  | .transport action operation =>
    .transport event.category (some action) user (some operation.typeName)

/-- The records of a report. -/
def records (p : Recorder) (flags : CategoryFlags) (now : Instant) (call : Call) :
    List Record :=
  let event := call.report.event
  let f := p.filter
  if call.context.isInternalWrite then []
  else if !f.admits flags (subject event call.request call.context) then []
  else
    match call.request with
    | .rest r => [restRecord f now event r call.context]
    | .transport action operation =>
      p.resolver.resolve now { withDetails := f.includeDetails, resolveBulk := f.resolveBulk }
        (fullEvent event action call.context) operation

end Recorder

end AuditTrail
