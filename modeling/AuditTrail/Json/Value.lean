import AuditTrail.Entries
import AuditTrail.Json.Number

/-! # JSON values

Objects hold their members in strictly ascending order of names, so that equal values are equal
as terms whatever order their members were written in.
-/

namespace AuditTrail.Json

inductive Value
  | null
  | bool (b : Bool)
  | number (n : Number)
  | string (s : String)
  | array (items : List Value)
  | object (members : List (String × Value))
deriving Repr, Inhabited

namespace Value

mutual

/-- Equality of values, decided along their structure. -/
def decideEq : (v w : Value) → Decidable (v = w)
  | .null, .null => isTrue rfl
  | .bool a, .bool b => decidable_of_iff (a = b) (by simp)
  | .number a, .number b => decidable_of_iff (a = b) (by simp)
  | .string a, .string b => decidable_of_iff (a = b) (by simp)
  | .array a, .array b =>
    @decidable_of_iff _ (a = b) (by simp) (decideItems a b)
  | .object a, .object b =>
    @decidable_of_iff _ (a = b) (by simp) (decideMembers a b)
  | .null, .bool _ | .null, .number _ | .null, .string _ | .null, .array _ | .null, .object _
  | .bool _, .null | .bool _, .number _ | .bool _, .string _ | .bool _, .array _
  | .bool _, .object _
  | .number _, .null | .number _, .bool _ | .number _, .string _ | .number _, .array _
  | .number _, .object _
  | .string _, .null | .string _, .bool _ | .string _, .number _ | .string _, .array _
  | .string _, .object _
  | .array _, .null | .array _, .bool _ | .array _, .number _ | .array _, .string _
  | .array _, .object _
  | .object _, .null | .object _, .bool _ | .object _, .number _ | .object _, .string _
  | .object _, .array _ => isFalse (by simp)

def decideItems : (vs ws : List Value) → Decidable (vs = ws)
  | [], [] => isTrue rfl
  | v :: vs, w :: ws =>
    match decideEq v w, decideItems vs ws with
    | isTrue h, isTrue hs => isTrue (by rw [h, hs])
    | isFalse h, _ => isFalse (by simp [h])
    | _, isFalse hs => isFalse (by simp [hs])
  | [], _ :: _ | _ :: _, [] => isFalse (by simp)

def decideMembers : (vs ws : List (String × Value)) → Decidable (vs = ws)
  | [], [] => isTrue rfl
  | (k, v) :: vs, (l, w) :: ws =>
    match decEq k l, decideEq v w, decideMembers vs ws with
    | isTrue hk, isTrue h, isTrue hs => isTrue (by rw [hk, h, hs])
    | isFalse hk, _, _ => isFalse (by simp [hk])
    | _, isFalse h, _ => isFalse (by simp [h])
    | _, _, isFalse hs => isFalse (by simp [hs])
  | [], _ :: _ | _ :: _, [] => isFalse (by simp)

end

instance : DecidableEq Value := decideEq

def ofTable (t : Table Value) : Value := .object t.entries

def strings (items : List String) : Value := .array (items.map .string)

/-- The member of an object. -/
def member? (v : Value) (name : String) : Option Value :=
  match v with
  | .object members => Entries.find? name members
  | _ => none

def string? : Value → Option String
  | .string s => some s
  | _ => none

mutual

/-- Names ascend in every object, at any depth. -/
inductive Ordered : Value → Prop
  | null : Ordered .null
  | bool (b : Bool) : Ordered (.bool b)
  | number (n : Number) : Ordered (.number n)
  | string (s : String) : Ordered (.string s)
  | array {items : List Value} : OrderedItems items → Ordered (.array items)
  | object {members : List (String × Value)} :
    Ascending members → OrderedMembers members → Ordered (.object members)

inductive OrderedItems : List Value → Prop
  | nil : OrderedItems []
  | cons {v : Value} {vs : List Value} : Ordered v → OrderedItems vs → OrderedItems (v :: vs)

inductive OrderedMembers : List (String × Value) → Prop
  | nil : OrderedMembers []
  | cons {k : String} {v : Value} {ms : List (String × Value)} :
    Ordered v → OrderedMembers ms → OrderedMembers ((k, v) :: ms)

end

end Value

end AuditTrail.Json
