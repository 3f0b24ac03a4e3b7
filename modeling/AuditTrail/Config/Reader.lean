import AuditTrail.Config.Basic
import AuditTrail.Json.Printer
import AuditTrail.Json.Tree
import AuditTrail.Text.Utf8

/-! # Reading and writing configurations

A configuration is a JSON object whose members may be missing but not repeated, and among which
unknown ones are skipped unread, or a JSON array of settings in the order of their declaration.
-/

namespace AuditTrail.Config

open Json (Tree Value)

/-! ## Settings -/

/-- Whole numbers are written without point and exponent. -/
def int? : Tree → Option Int
  | .number n =>
    match n.number? with
    | some (.int i) => some i
    | _ => none
  | _ => none

/-- A whole number of 64 bits with a sign. -/
def signed? (t : Tree) : Option Int :=
  (int? t).filter fun i => -Int.pow 2 63 ≤ i && i < Int.pow 2 63

def natural? (t : Tree) : Option Nat := ((int? t).filter (0 ≤ ·)).map Int.toNat

def bool? : Tree → Option Bool
  | .bool b => some b
  | _ => none

def text? : Tree → Option String
  | .string text => text
  | _ => none

def optionalText? : Tree → Option (Option String)
  | .null => some none
  | t => (text? t).map some

def texts? : Tree → Option (List String)
  | .array items => items.mapM text?
  | _ => none

/-- An object, read as deep as the whole document may nest. -/
def table? : Tree → Option (Table Value)
  | .object members =>
    (Tree.members? (Value.depthLimit - 2) members []).map Table.ofList
  | _ => none

/-- A setting's name and how it is read. -/
structure Setting where
  name : String
  read? : Tree → Config → Option Config

/-- The settings in the order in which they are declared. -/
def settings : List Setting :=
  [⟨"type", fun t c => (optionalText? t).map fun v => { c with sinkType := v }⟩,
    ⟨"enable_rest", fun t c => (bool? t).map fun v => { c with enableRest := v }⟩,
    ⟨"enable_transport", fun t c => (bool? t).map fun v => { c with enableTransport := v }⟩,
    ⟨"log_request_body", fun t c => (bool? t).map fun v => { c with logRequestBody := v }⟩,
    ⟨"resolve_bulk_requests",
      fun t c => (bool? t).map fun v => { c with resolveBulkRequests := v }⟩,
    ⟨"resolve_indices", fun t c => (bool? t).map fun v => { c with resolveIndices := v }⟩,
    ⟨"disabled_categories",
      fun t c => (texts? t).map fun v => { c with disabledCategories := v }⟩,
    ⟨"ignore_users", fun t c => (texts? t).map fun v => { c with ignoreUsers := v }⟩,
    ⟨"ignore_requests", fun t c => (texts? t).map fun v => { c with ignoreRequests := v }⟩,
    ⟨"threadpool_size", fun t c => (signed? t).map fun v => { c with threadpoolSize := v }⟩,
    ⟨"threadpool_max_queue_len",
      fun t c => (signed? t).map fun v => { c with threadpoolMaxQueueLen := v }⟩,
    ⟨"shutdown_grace_period_secs",
      fun t c => (natural? t).map fun v => { c with shutdownGraceSeconds := v }⟩,
    ⟨"config_index", fun t c => (text? t).map fun v => { c with configIndex := v }⟩,
    ⟨"sink", fun t c => (table? t).map fun v => { c with sink := v }⟩]

/-- Reads members one after the other; `seen` are the names of the settings read so far. -/
def readMembers? (seen : List String) (c : Config) :
    List (Option String × Tree) → Option Config
  | [] => some c
  | (name, t) :: rest => do
    let name ← name
    match settings.find? (·.name == name) with
    | none => readMembers? seen c rest
    | some s =>
      if seen.contains name then none
      else
        let c ← s.read? t c
        readMembers? (name :: seen) c rest

/-- Reads settings by their position; those at the end may be missing. -/
def readItems? (c : Config) : List Setting → List Tree → Option Config
  | _, [] => some c
  | [], _ :: _ => none
  | s :: settings, t :: rest => do
    let c ← s.read? t c
    readItems? c settings rest

/-- The configuration that a document states, not yet checked. -/
def ofTree? : Tree → Option Config
  | .object members => readMembers? [] { sink := .empty } members
  | .array items => readItems? { sink := .empty } settings items
  | _ => none

/-- The configuration that a text states, not yet checked. -/
def ofChars? (cs : List Char) : Option Config := (Tree.ofText? cs).bind ofTree?

/-- Reads and checks a configuration. What is wrong with a text that cannot be read is not told. -/
def ofText (s : String) : Except Error Config :=
  match ofChars? s.toList with
  | none => .error (.config "invalid JSON")
  | some c => c.check.map fun _ => c

/-- Reads a configuration from what came of opening a file: its octets or a reason. -/
def ofFile (path : String) (content : Except String (List UInt8)) : Except Error Config :=
  let failed (reason : String) : Error :=
    .config ("failed to read config file '" ++ path ++ "': " ++ reason)
  match content with
  | .error reason => .error (failed reason)
  | .ok octets =>
    match Text.Utf8.decode octets with
    | .error _ => .error (failed "stream did not contain valid UTF-8")
    | .ok cs => ofText (String.ofList cs)

/-- The configuration as JSON text. -/
def json (c : Config) : String := (Value.object c.members).compact

end AuditTrail.Config
