import AuditTrail.Context
import AuditTrail.Request.Basic
import AuditTrail.Resolver

/-! # Reports

What the host reports to the log: the outcome of an authentication or an authorisation, or a
fault of a request.
-/

namespace AuditTrail

inductive Report
  | failedLogin (user : String)
  /-- The effective user is stated where a user acts for someone else. -/
  | succeededLogin (user : String) (isAdmin : Bool) (effectiveUser : Option String)
  | missingPrivileges (privilege : String)
  | grantedPrivileges (privilege : String)
  | badHeaders
  | indexAttempt
  | sslException (details : String)
deriving DecidableEq, Repr

/-- What a report says by itself. Only a user who acts for someone else is told apart from the
effective user. -/
def Report.event : Report → Event
  | failedLogin user => { category := .failedLogin, effectiveUser := some user }
  | succeededLogin user isAdmin effectiveUser =>
    match effectiveUser.filter (· != user) with
    | some effective =>
      { category := .authenticated
        effectiveUser := some effective
        initiatingUser := some user
        isAdmin := some isAdmin }
    | none => { category := .authenticated, effectiveUser := some user, isAdmin := some isAdmin }
  | missingPrivileges privilege =>
    { category := .missingPrivileges, privilege := some privilege }
  | grantedPrivileges privilege =>
    { category := .grantedPrivileges, privilege := some privilege }
  | badHeaders => { category := .badHeaders }
  | indexAttempt => { category := .indexAttempt }
  | sslException details => { category := .sslException, details := some details }

/-- A report about a request in its context. -/
structure Call where
  report : Report
  request : Request
  context : Context

end AuditTrail
