import AuditTrail.Proofs.Json.Grammar
import AuditTrail.Proofs.Json.Values

/-! # Reading values back

Compact and indented text of a value are read as this value, as long as its numbers are integers
and its containers do not nest too deep. Members come back in the order of their names, and of
several members of one name the last one.
-/

namespace AuditTrail.Json

/-- The numeral that a number is written as. -/
def Number.numeral : Number → Numeral
  | .int n => .ofInt n
  | .float bits =>
    match Token.read? (floatChars bits) with
    | some (.number n, _) => n
    | _ => { whole := [] }

theorem Token.AllWritten.newLine (level : Nat) {ts : List Token} {rest : List Char}
    (h : Token.AllWritten ts rest) : Token.AllWritten ts (Value.newLine level ++ rest) := by
  refine .spaces (fun c hc => ?_) h
  rcases List.mem_cons.mp hc with rfl | hc
  · rfl
  · rw [List.eq_of_mem_replicate hc]
    rfl

namespace Value

/-! ## Documents of values -/

mutual

/-- The document that is written for a value. -/
def tree : Value → Tree
  | .null => .null
  | .bool b => .bool b
  | .number n => .number n.numeral
  | .string s => .string (some s)
  | .array items => .array (itemTrees items)
  | .object members => .object (memberTrees members)

def itemTrees : List Value → List Tree
  | [] => []
  | v :: vs => tree v :: itemTrees vs

def memberTrees : List (String × Value) → List (Option String × Tree)
  | [] => []
  | (k, v) :: ms => (some k, tree v) :: memberTrees ms

end

mutual

theorem value?_tree : ∀ (v : Value) {n : Nat}, v.IsIntegral → v.depth ≤ n →
    v.tree.value? n = some v.normal
  | .null, _, _, _ | .bool _, _, _, _ | .string _, _, _, _ => by
    simp [tree, Tree.value?, normal]
  | .number (.int i), _, hi, _ => by
    simp [tree, Tree.value?, Number.numeral, Numeral.number?_ofInt hi, normal]
  | .array items, 0, _, hd | .object members, 0, _, hd => by simp [depth] at hd
  | .array items, n + 1, hi, hd => by
    rw [tree, Tree.value?, items?_itemTrees items hi (by simpa [depth] using hd)]
    simp [normal]
  | .object members, n + 1, hi, hd => by
    rw [tree, Tree.value?, members?_memberTrees members [] hi (by simpa [depth] using hd)]
    simp [normal, Entries.ofList]

theorem items?_itemTrees : ∀ (vs : List Value) {n : Nat}, ItemsIntegral vs → itemsDepth vs ≤ n →
    Tree.items? n (itemTrees vs) = some (normalItems vs)
  | [], _, _, _ => rfl
  | v :: vs, n, hi, hd => by
    rw [itemsDepth, Nat.max_le] at hd
    simp [itemTrees, Tree.items?, normalItems, value?_tree v hi.1 hd.1,
      items?_itemTrees vs hi.2 hd.2]

theorem members?_memberTrees : ∀ (ms stored : List (String × Value)) {n : Nat},
    MembersIntegral ms → membersDepth ms ≤ n →
    Tree.members? n (memberTrees ms) stored =
      some ((normalMembers ms).foldl (fun es e => Entries.insert e.1 e.2 es) stored)
  | [], _, _, _, _ => rfl
  | (k, v) :: ms, stored, n, hi, hd => by
    rw [membersDepth, Nat.max_le] at hd
    simp [memberTrees, Tree.members?, normalMembers, value?_tree v hi.1 hd.1,
      members?_memberTrees ms _ hi.2 hd.2]

end

/-! ## Compact text -/

open Token (AllWritten)

mutual

theorem written_compactChars : ∀ (v : Value) {ts : List Token} {rest : List Char},
    v.IsIntegral → AllWritten ts rest → AllWritten (v.tree.tokens ++ ts) (v.compactChars ++ rest)
  | .null, _, _, _, h => .token .null h
  | .bool true, _, _, _, h => .token .true h
  | .bool false, _, _, _, h => .token .false h
  | .number (.int n), _, _, _, h => .int n h
  | .string s, _, _, _, h => .quote s h
  | .array [], _, _, _, h => .mark .beginArray (.mark .endArray h)
  | .array (v :: vs), ts, rest, hi, h => by
    have hv := written_compactChars v hi.1 (written_compactItems vs hi.2 h)
    simp only [compactChars, tree, itemTrees, Tree.tokens, List.cons_append, List.append_assoc]
    exact .mark .beginArray hv
  | .object [], _, _, _, h => .mark .beginObject (.mark .endObject h)
  | .object ((k, v) :: ms), ts, rest, hi, h => by
    have hv := written_compactChars v hi.1 (written_compactMembers ms hi.2 h)
    simp only [compactChars, tree, memberTrees, Tree.tokens, List.cons_append, List.append_assoc]
    exact .mark .beginObject (.quote k (.mark .colon hv))

theorem written_compactItems : ∀ (vs : List Value) {ts : List Token} {rest : List Char},
    ItemsIntegral vs → AllWritten ts rest →
    AllWritten (Tree.itemTokens (itemTrees vs) ++ ts) (compactItems vs ++ rest)
  | [], _, _, _, h => .mark .endArray h
  | v :: vs, ts, rest, hi, h => by
    have hv := written_compactChars v hi.1 (written_compactItems vs hi.2 h)
    simp only [compactItems, itemTrees, Tree.itemTokens, List.cons_append, List.append_assoc]
    exact .mark .comma hv

theorem written_compactMembers : ∀ (ms : List (String × Value)) {ts : List Token}
    {rest : List Char}, MembersIntegral ms → AllWritten ts rest →
    AllWritten (Tree.memberTokens (memberTrees ms) ++ ts) (compactMembers ms ++ rest)
  | [], _, _, _, h => .mark .endObject h
  | (k, v) :: ms, ts, rest, hi, h => by
    have hv := written_compactChars v hi.1 (written_compactMembers ms hi.2 h)
    simp only [compactMembers, memberTrees, Tree.memberTokens, List.cons_append,
      List.append_assoc]
    exact .mark .comma (.quote k (.mark .colon hv))

end

/-! ## Indented text -/

mutual

theorem written_prettyChars : ∀ (v : Value) (level : Nat) {ts : List Token} {rest : List Char},
    v.IsIntegral → AllWritten ts rest →
    AllWritten (v.tree.tokens ++ ts) (v.prettyChars level ++ rest)
  | .null, _, _, _, _, h => .token .null h
  | .bool true, _, _, _, _, h => .token .true h
  | .bool false, _, _, _, _, h => .token .false h
  | .number (.int n), _, _, _, _, h => .int n h
  | .string s, _, _, _, _, h => .quote s h
  | .array [], _, _, _, _, h => .mark .beginArray (.mark .endArray h)
  | .array (v :: vs), level, ts, rest, hi, h => by
    have hv := written_prettyChars v (level + 1) hi.1 (written_prettyItems vs level hi.2 h)
    simp only [prettyChars, tree, itemTrees, Tree.tokens, List.cons_append, List.append_assoc]
    exact .mark .beginArray (.newLine _ hv)
  | .object [], _, _, _, _, h => .mark .beginObject (.mark .endObject h)
  | .object ((k, v) :: ms), level, ts, rest, hi, h => by
    have hv := written_prettyChars v (level + 1) hi.1 (written_prettyMembers ms level hi.2 h)
    simp only [prettyChars, tree, memberTrees, Tree.tokens, List.cons_append, List.append_assoc]
    exact .mark .beginObject (.newLine _ (.quote k (.mark .colon (.space rfl hv))))

theorem written_prettyItems : ∀ (vs : List Value) (level : Nat) {ts : List Token}
    {rest : List Char}, ItemsIntegral vs → AllWritten ts rest →
    AllWritten (Tree.itemTokens (itemTrees vs) ++ ts) (prettyItems level vs ++ rest)
  | [], level, _, rest, _, h => by
    simp only [prettyItems, itemTrees, Tree.itemTokens, List.append_assoc, List.singleton_append]
    exact .newLine level (.mark .endArray h)
  | v :: vs, level, ts, rest, hi, h => by
    have hv := written_prettyChars v (level + 1) hi.1 (written_prettyItems vs level hi.2 h)
    simp only [prettyItems, itemTrees, Tree.itemTokens, List.cons_append, List.append_assoc]
    exact .mark .comma (.newLine _ hv)

theorem written_prettyMembers : ∀ (ms : List (String × Value)) (level : Nat) {ts : List Token}
    {rest : List Char}, MembersIntegral ms → AllWritten ts rest →
    AllWritten (Tree.memberTokens (memberTrees ms) ++ ts) (prettyMembers level ms ++ rest)
  | [], level, _, rest, _, h => by
    simp only [prettyMembers, memberTrees, Tree.memberTokens, List.append_assoc,
      List.singleton_append]
    exact .newLine level (.mark .endObject h)
  | (k, v) :: ms, level, ts, rest, hi, h => by
    have hv := written_prettyChars v (level + 1) hi.1 (written_prettyMembers ms level hi.2 h)
    simp only [prettyMembers, memberTrees, Tree.memberTokens, List.cons_append,
      List.append_assoc]
    exact .mark .comma (.newLine _ (.quote k (.mark .colon (.space rfl hv))))

end

/-! ## Round trips -/

/-- Compact text holds the document of its value. -/
theorem treeOfText?_compact {v : Value} (hi : v.IsIntegral) :
    Tree.ofText? v.compact.toList = some v.tree := by
  have h := written_compactChars v hi .nil
  rw [List.append_nil, List.append_nil] at h
  rw [compact, String.toList_ofList]
  exact Tree.ofText?_eq_some_iff.mpr h

theorem treeOfText?_pretty_append {v : Value} (hi : v.IsIntegral) {rest : List Char}
    (hr : ∀ c ∈ rest, Token.isSpace c = true) :
    Tree.ofText? (v.pretty.toList ++ rest) = some v.tree := by
  have h := written_prettyChars v 0 hi (.spaces hr .nil)
  rw [List.append_nil, List.append_nil] at h
  rw [pretty, String.toList_ofList]
  exact Tree.ofText?_eq_some_iff.mpr h

theorem ofText?_compact {v : Value} (hi : v.IsIntegral) (hd : v.depth ≤ depthLimit) :
    ofText? v.compact = some v.normal := by
  rw [ofText?, ofChars?, treeOfText?_compact hi, Option.bind_some, value?_tree v hi hd]

theorem ofText?_pretty_append {v : Value} (hi : v.IsIntegral) (hd : v.depth ≤ depthLimit)
    {rest : String} (hr : ∀ c ∈ rest.toList, Token.isSpace c = true) :
    ofText? (v.pretty ++ rest) = some v.normal := by
  rw [ofText?, ofChars?, String.toList_append, treeOfText?_pretty_append hi hr, Option.bind_some,
    value?_tree v hi hd]

theorem ofText?_pretty {v : Value} (hi : v.IsIntegral) (hd : v.depth ≤ depthLimit) :
    ofText? v.pretty = some v.normal := by
  rw [← String.append_empty (s := v.pretty)]
  exact ofText?_pretty_append hi hd (List.forall_mem_nil _)

end Value

/-! ## Names of members -/

end AuditTrail.Json
