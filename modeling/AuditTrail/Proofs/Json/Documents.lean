import AuditTrail.Json.Tree

/-! # Reading documents back

The tokens of a tree, and that the machine which reads them stops with this tree, whatever is
still open around it.
-/

namespace AuditTrail.Json.Tree

mutual

/-- The tokens of a document. -/
def tokens : Tree → List Token
  | .null => [.null]
  | .bool b => [.bool b]
  | .number n => [.number n]
  | .string text => [.string text]
  | .array [] => [.beginArray, .endArray]
  | .array (t :: ts) => .beginArray :: (tokens t ++ itemTokens ts)
  | .object [] => [.beginObject, .endObject]
  | .object ((name, t) :: ms) =>
    .beginObject :: .string name :: .colon :: (tokens t ++ memberTokens ms)

/-- The tokens of further items, and of the end of the array. -/
def itemTokens : List Tree → List Token
  | [] => [.endArray]
  | t :: ts => .comma :: (tokens t ++ itemTokens ts)

/-- The tokens of further members, and of the end of the object. -/
def memberTokens : List (Option String × Tree) → List Token
  | [] => [.endObject]
  | (name, t) :: ms => .comma :: .string name :: .colon :: (tokens t ++ memberTokens ms)

end

theorem run?_cons (s : State) (t : Token) (ts : List Token) :
    run? s (t :: ts) = (s.step? t).bind fun s => run? s ts :=
  List.foldlM_cons

theorem run?_firstItem (outer : List Frame) (t : Tree) (rest : List Token) :
    run? (.firstItem outer) (t.tokens ++ rest) =
      run? (.value (.array [] :: outer)) (t.tokens ++ rest) := by
  cases t with
  | array items => cases items <;> simp only [tokens, List.cons_append, run?_cons] <;> rfl
  | object members =>
    cases members <;> simp only [tokens, List.cons_append, run?_cons] <;> rfl
  | _ =>
    simp only [tokens, List.cons_append, run?_cons]
    rfl

mutual

/-- Where a value may stand, the tokens of a tree are read as this tree. -/
theorem run?_tokens (outer : List Frame) : ∀ (t : Tree) (rest : List Token),
    run? (.value outer) (t.tokens ++ rest) = run? (.after outer t) rest
  | .null, rest => rfl
  | .bool b, rest => rfl
  | .number n, rest => rfl
  | .string text, rest => rfl
  | .array [], rest => rfl
  | .array (t :: ts), rest => by
    have ht := run?_tokens (.array [] :: outer) t (itemTokens ts ++ rest)
    rw [tokens, List.cons_append, run?_cons, List.append_assoc]
    simp only [State.step?, State.begin?, Option.bind_some]
    rw [run?_firstItem, ht, run?_itemTokens outer ts t [] rest]
    rfl
  | .object [], rest => rfl
  | .object ((name, t) :: ms), rest => by
    have ht := run?_tokens (.object [] name :: outer) t (memberTokens ms ++ rest)
    rw [tokens, List.cons_append, List.cons_append, List.cons_append, run?_cons, List.append_assoc]
    simp only [State.step?, State.begin?, Option.bind_some, run?_cons]
    rw [ht, run?_memberTokens outer ms name t [] rest]
    rfl

theorem run?_itemTokens (outer : List Frame) :
    ∀ (ts : List Tree) (t : Tree) (before : List Tree) (rest : List Token),
    run? (.after (.array before :: outer) t) (itemTokens ts ++ rest) =
      run? (.after outer (.array ((t :: before).reverse ++ ts))) rest
  | [], t, before, rest => by simp [itemTokens, run?_cons, State.step?]
  | u :: ts, t, before, rest => by
    have hu := run?_tokens (.array (t :: before) :: outer) u (itemTokens ts ++ rest)
    rw [itemTokens, List.cons_append, run?_cons, List.append_assoc]
    simp only [State.step?, Option.bind_some]
    rw [hu, run?_itemTokens outer ts u (t :: before) rest]
    simp

theorem run?_memberTokens (outer : List Frame) :
    ∀ (ms : List (Option String × Tree)) (name : Option String) (t : Tree)
      (before : List (Option String × Tree)) (rest : List Token),
    run? (.after (.object before name :: outer) t) (memberTokens ms ++ rest) =
      run? (.after outer (.object (((name, t) :: before).reverse ++ ms))) rest
  | [], name, t, before, rest => by simp [memberTokens, run?_cons, State.step?]
  | (key, u) :: ms, name, t, before, rest => by
    have hu := run?_tokens (.object ((name, t) :: before) key :: outer) u (memberTokens ms ++ rest)
    rw [memberTokens, List.cons_append, List.cons_append, List.cons_append, run?_cons,
      List.append_assoc]
    simp only [State.step?, Option.bind_some, run?_cons]
    rw [hu, run?_memberTokens outer ms key u ((name, t) :: before) rest]
    simp

end

theorem ofTokens?_tokens (t : Tree) : ofTokens? t.tokens = some t := by
  have h := run?_tokens [] t []
  rw [List.append_nil] at h
  rw [ofTokens?, h]
  rfl

end AuditTrail.Json.Tree
