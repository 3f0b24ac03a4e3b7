import AuditTrail.Json.Token
import AuditTrail.Json.Value

/-! # JSON documents as written

A tree keeps what a value forgets: the order and repetition of members, the spelling of numbers,
strings without text. Reading is a machine over tokens whose stack holds the containers that are
still open, so that documents of any depth are read. A value is then a tree within a depth limit
whose numbers and strings have a meaning.
-/

namespace AuditTrail.Json

inductive Tree
  | null
  | bool (b : Bool)
  | number (n : Numeral)
  /-- The text, if there is one. -/
  | string (text : Option String)
  | array (items : List Tree)
  /-- Members in the order in which they are written. -/
  | object (members : List (Option String × Tree))
deriving Repr, Inhabited

namespace Tree

/-- A container that is open, with its finished parts, last first. -/
inductive Frame
  | array (before : List Tree)
  | object (before : List (Option String × Tree)) (name : Option String)

/-- What has been read, and so what may follow. -/
inductive State
  /-- A value. -/
  | value (outer : List Frame)
  /-- The first item of an array, or its end. -/
  | firstItem (outer : List Frame)
  /-- The first member of an object, or its end. -/
  | firstMember (outer : List Frame)
  /-- The name of a further member. -/
  | name (outer : List Frame) (before : List (Option String × Tree))
  /-- The colon after a name. -/
  | colon (outer : List Frame) (before : List (Option String × Tree)) (name : Option String)
  /-- A comma or the end of the innermost container, or the end of the text. -/
  | after (outer : List Frame) (tree : Tree)

namespace State

/-- The first token of a value. -/
def begin? (outer : List Frame) : Token → Option State
  | .null => some (after outer .null)
  | .bool b => some (after outer (.bool b))
  | .number n => some (after outer (.number n))
  | .string text => some (after outer (.string text))
  | .beginArray => some (firstItem outer)
  | .beginObject => some (firstMember outer)
  | .endArray | .endObject | .colon | .comma => none

def step? : State → Token → Option State
  | value outer, t => begin? outer t
  | firstItem outer, .endArray => some (after outer (.array []))
  | firstItem outer, t => begin? (.array [] :: outer) t
  | firstMember outer, .endObject => some (after outer (.object []))
  | firstMember outer, .string key => some (colon outer [] key)
  | name outer before, .string key => some (colon outer before key)
  | colon outer before key, .colon => some (value (.object before key :: outer))
  | after (.array before :: outer) t, .comma => some (value (.array (t :: before) :: outer))
  | after (.array before :: outer) t, .endArray =>
    some (after outer (.array (t :: before).reverse))
  | after (.object before key :: outer) t, .comma => some (name outer ((key, t) :: before))
  | after (.object before key :: outer) t, .endObject =>
    some (after outer (.object ((key, t) :: before).reverse))
  | _, _ => none

def result? : State → Option Tree
  | after [] t => some t
  | _ => none

end State

/-- Runs the machine over tokens. -/
def run? (s : State) (tokens : List Token) : Option State := tokens.foldlM State.step? s

def ofTokens? (tokens : List Token) : Option Tree :=
  (run? (.value []) tokens).bind State.result?

/-- The document that a text holds. -/
def ofText? (cs : List Char) : Option Tree := (Token.ofText? cs).bind ofTokens?

/-! ## Values -/

mutual

/-- The value of a tree with at most `depth` nested containers. -/
def value? (depth : Nat) : Tree → Option Value
  | .null => some .null
  | .bool b => some (.bool b)
  | .number n => n.number?.map .number
  | .string text => text.map .string
  | .array items =>
    match depth with
    | 0 => none
    | depth + 1 => (items? depth items).map .array
  | .object members =>
    match depth with
    | 0 => none
    | depth + 1 => (members? depth members []).map .object

def items? (depth : Nat) : List Tree → Option (List Value)
  | [] => some []
  | t :: ts => do
    let v ← value? depth t
    let vs ← items? depth ts
    some (v :: vs)

/-- Stores members in the order in which they are written; the last one of a name stays. -/
def members? (depth : Nat) :
    List (Option String × Tree) → List (String × Value) → Option (List (String × Value))
  | [], stored => some stored
  | (name, t) :: ms, stored => do
    let name ← name
    let v ← value? depth t
    members? depth ms (Entries.insert name v stored)

end

end Tree

namespace Value

/-- How deep the containers of a document that is read into a value may nest. -/
def depthLimit : Nat := 127

/-- The value that a text holds. -/
def ofChars? (cs : List Char) : Option Value := (Tree.ofText? cs).bind (Tree.value? depthLimit)

/-- The value that a text holds. -/
def ofText? (s : String) : Option Value := ofChars? s.toList

end Value

end AuditTrail.Json
