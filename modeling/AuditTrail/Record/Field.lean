/-! # Record fields

The closed list of what a record can say, with the name of each field on the wire and its label
in text. Records list their fields in this order.
-/

namespace AuditTrail

inductive Field
  | category
  | timestamp
  | origin
  | effectiveUser
  | initiatingUser
  | effectiveUserIsAdmin
  | remoteAddress
  | action
  | requestClass
  | privilege
  | indices
  | resolvedIndices
  | docTypes
  | docId
  | shardId
  | restPath
  | restParams
  | requestBody
  | headers
  | details
  | taskId
  | taskParentId
deriving DecidableEq, Repr

namespace Field

def all : List Field :=
  [category, timestamp, origin, effectiveUser, initiatingUser, effectiveUserIsAdmin,
    remoteAddress, action, requestClass, privilege, indices, resolvedIndices, docTypes, docId,
    shardId, restPath, restParams, requestBody, headers, details, taskId, taskParentId]

theorem mem_all (f : Field) : f ∈ all := by cases f <;> decide

/-- Names tell fields apart if each field is the first one of its name. -/
theorem eq_of_name_eq {name : Field → String}
    (hn : ∀ f, all.find? (fun g => name g == name f) = some f) {f g : Field}
    (h : name f = name g) : f = g := by
  have hg := hn g
  rw [← h, hn f] at hg
  exact Option.some.inj hg

/-- The name of a field on the wire. -/
def key : Field → String
  | category => "audit_category"
  | timestamp => "audit_utc_timestamp"
  | origin => "audit_request_layer"
  | effectiveUser => "audit_request_effective_user"
  | initiatingUser => "audit_request_initiating_user"
  | effectiveUserIsAdmin => "audit_request_effective_user_is_admin"
  | remoteAddress => "audit_request_remote_address"
  | action => "audit_transport_action"
  | requestClass => "audit_request_class"
  | privilege => "audit_request_privilege"
  | indices => "audit_trace_indices"
  | resolvedIndices => "audit_trace_resolved_indices"
  | docTypes => "audit_trace_doc_types"
  | docId => "audit_trace_doc_id"
  | shardId => "audit_trace_shard_id"
  | restPath => "audit_rest_request_path"
  | restParams => "audit_rest_request_params"
  | requestBody => "audit_request_body"
  | headers => "audit_request_headers"
  | details => "audit_request_exception"
  | taskId => "audit_trace_task_id"
  | taskParentId => "audit_trace_task_parent_id"

/-- The label of a field in text. -/
def label : Field → String
  | category => "Category"
  | timestamp => "Timestamp"
  | origin => "Layer"
  | effectiveUser => "User"
  | initiatingUser => "Initiating user"
  | effectiveUserIsAdmin => "Admin"
  | remoteAddress => "Remote address"
  | action => "Action"
  | requestClass => "Request class"
  | privilege => "Privilege"
  | indices => "Indices"
  | resolvedIndices => "Resolved indices"
  | docTypes => "Types"
  | docId => "Id"
  | shardId => "Shard"
  | restPath => "Path"
  | restParams => "Params"
  | requestBody => "Body"
  | headers => "Headers"
  | details => "Details"
  | taskId => "Task"
  | taskParentId => "Parent task"

end Field

end AuditTrail
