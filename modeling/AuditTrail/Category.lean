import AuditTrail.Error
import AuditTrail.Text.Blank

/-! # Audit categories

What an event is about, and the switches that turn categories off while the program runs.
-/

namespace AuditTrail

inductive Category
  | failedLogin
  | authenticated
  | missingPrivileges
  | grantedPrivileges
  | badHeaders
  | indexAttempt
  | sslException
deriving DecidableEq, Repr

namespace Category

/-- All categories in the order in which they are declared. -/
def all : List Category :=
  [failedLogin, authenticated, missingPrivileges, grantedPrivileges, badHeaders, indexAttempt,
    sslException]

theorem mem_all (c : Category) : c ∈ all := by cases c <;> decide

def name : Category → String
  | failedLogin => "FAILED_LOGIN"
  | authenticated => "AUTHENTICATED"
  | missingPrivileges => "MISSING_PRIVILEGES"
  | grantedPrivileges => "GRANTED_PRIVILEGES"
  | badHeaders => "BAD_HEADERS"
  | indexAttempt => "SG_INDEX_ATTEMPT"
  | sslException => "SSL_EXCEPTION"

/-- Categories that are recorded even where auditing of the layer is off. -/
def isSecurityCritical : Category → Bool
  | failedLogin | missingPrivileges | indexAttempt => true
  | _ => false

/-- The category with a name, blanks around it and the case of ASCII letters apart. -/
def ofName? (s : String) : Option Category :=
  all.find? fun c => c.name.toLower == (Text.trim s).toLower

def ofName (s : String) : Except Error Category :=
  match ofName? s with
  | some c => .ok c
  | none => .error (.invalidCategory s)

end Category

/-- Which categories are switched on. -/
structure CategoryFlags where
  enabled : Category → Bool := fun _ => true

namespace CategoryFlags

def allOn : CategoryFlags := {}

def set (flags : CategoryFlags) (c : Category) (on : Bool) : CategoryFlags where
  enabled d := if d = c then on else flags.enabled d

/-- A change of the switches. -/
inductive Change
  | set (c : Category) (on : Bool)
  | reset
deriving DecidableEq, Repr

def apply (flags : CategoryFlags) : Change → CategoryFlags
  | .set c on => flags.set c on
  | .reset => allOn

end CategoryFlags

end AuditTrail
