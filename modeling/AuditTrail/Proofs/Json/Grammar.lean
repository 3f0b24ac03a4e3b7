import AuditTrail.Proofs.Json.Documents
import AuditTrail.Proofs.Json.Lexing

/-! # Documents as written

A text is a document if the tokens of the document are written in it, in their order and with
blanks anywhere between them. A text is read as a document if and only if it is this document as
written: the tokens that a machine has taken are those of its open containers and of what was
read last, and in the tokens of a document no numeral stands where it could go on.
-/

namespace AuditTrail.Json

namespace Tree

/-! ## Where numerals end -/

theorem isEnd_itemTokens (ts : List Tree) (rest : List Token) :
    ∀ u ∈ (itemTokens ts ++ rest).head?, u.IsEnd := by
  cases ts <;> rintro u ⟨⟩ <;> simp [Token.IsEnd]

theorem isEnd_memberTokens (ms : List (Option String × Tree)) (rest : List Token) :
    ∀ u ∈ (memberTokens ms ++ rest).head?, u.IsEnd := by
  cases ms <;> rintro u ⟨⟩ <;> simp [Token.IsEnd]

mutual

theorem separated_tokens : ∀ (t : Tree) {rest : List Token}, Token.Separated rest →
    (∀ u ∈ rest.head?, u.IsEnd) → Token.Separated (t.tokens ++ rest)
  | .null, _, hs, _ | .bool _, _, hs, _ | .string _, _, hs, _ => .cons rfl hs
  | .number _, _, hs, hr => List.isChain_cons.mpr ⟨fun u hu _ => hr u hu, hs⟩
  | .array [], _, hs, _ | .object [], _, hs, _ => .cons rfl (.cons rfl hs)
  | .array (t :: ts), rest, hs, _ => by
    have ht := separated_tokens t (separated_itemTokens ts hs) (isEnd_itemTokens ts rest)
    rw [tokens, List.cons_append, List.append_assoc]
    exact .cons rfl ht
  | .object ((name, t) :: ms), rest, hs, _ => by
    have ht := separated_tokens t (separated_memberTokens ms hs) (isEnd_memberTokens ms rest)
    rw [tokens, List.cons_append, List.cons_append, List.cons_append, List.append_assoc]
    exact .cons rfl (.cons rfl (.cons rfl ht))

theorem separated_itemTokens : ∀ (ts : List Tree) {rest : List Token}, Token.Separated rest →
    Token.Separated (itemTokens ts ++ rest)
  | [], _, hs => .cons rfl hs
  | t :: ts, rest, hs => by
    have ht := separated_tokens t (separated_itemTokens ts hs) (isEnd_itemTokens ts rest)
    rw [itemTokens, List.cons_append, List.append_assoc]
    exact .cons rfl ht

theorem separated_memberTokens : ∀ (ms : List (Option String × Tree)) {rest : List Token},
    Token.Separated rest → Token.Separated (memberTokens ms ++ rest)
  | [], _, hs => .cons rfl hs
  | (name, t) :: ms, rest, hs => by
    have ht := separated_tokens t (separated_memberTokens ms hs) (isEnd_memberTokens ms rest)
    rw [memberTokens, List.cons_append, List.cons_append, List.cons_append, List.append_assoc]
    exact .cons rfl (.cons rfl (.cons rfl ht))

end

/-! ## What a machine has read -/

/-- Finished items, each with the comma behind it. -/
def closedItems (ts : List Tree) : List Token := ts.flatMap fun t => t.tokens ++ [.comma]

/-- Finished members, each with the comma behind it. -/
def closedMembers (ms : List (Option String × Tree)) : List Token :=
  ms.flatMap fun m => .string m.1 :: .colon :: (m.2.tokens ++ [.comma])

theorem tokens_array_concat (ts : List Tree) (t : Tree) :
    (array (ts ++ [t])).tokens = .beginArray :: (closedItems ts ++ t.tokens ++ [.endArray]) := by
  have h : ∀ (ts : List Tree) (u : Tree), u.tokens ++ itemTokens (ts ++ [t]) =
      closedItems (u :: ts) ++ t.tokens ++ [.endArray] := by
    intro ts
    induction ts with
    | nil => simp [closedItems, itemTokens]
    | cons v ts ih =>
      intro u
      rw [List.cons_append, itemTokens, ih v]
      simp [closedItems]
  cases ts with
  | nil => simp [closedItems, itemTokens, tokens]
  | cons u ts => rw [List.cons_append, tokens, h]

theorem tokens_object_concat (ms : List (Option String × Tree)) (name : Option String) (t : Tree) :
    (object (ms ++ [(name, t)])).tokens =
      .beginObject :: (closedMembers ms ++ .string name :: .colon :: t.tokens ++ [.endObject]) := by
  have h : ∀ (ms : List (Option String × Tree)) (u : Option String × Tree),
      .string u.1 :: .colon :: (u.2.tokens ++ memberTokens (ms ++ [(name, t)])) =
        closedMembers (u :: ms) ++ .string name :: .colon :: t.tokens ++ [.endObject] := by
    intro ms
    induction ms with
    | nil => simp [closedMembers, memberTokens]
    | cons v ms ih =>
      intro u
      rw [List.cons_append, memberTokens, ih v]
      simp [closedMembers]
  cases ms with
  | nil => simp [closedMembers, memberTokens, tokens]
  | cons u ms => rw [List.cons_append, tokens, h]

/-- The tokens of a container so far. -/
def Frame.tokens : Frame → List Token
  | .array before => .beginArray :: closedItems before.reverse
  | .object before name =>
    .beginObject :: (closedMembers before.reverse ++ [.string name, .colon])

namespace State

/-- The tokens of the containers that are open. -/
def openTokens (outer : List Frame) : List Token := outer.reverse.flatMap Frame.tokens

/-- The tokens that were taken up to a state. -/
def tokens : State → List Token
  | value outer => openTokens outer
  | firstItem outer => openTokens outer ++ [.beginArray]
  | firstMember outer => openTokens outer ++ [.beginObject]
  | name outer before => openTokens outer ++ .beginObject :: closedMembers before.reverse
  | colon outer before key =>
    openTokens outer ++ .beginObject :: (closedMembers before.reverse ++ [.string key])
  | after outer t => openTokens outer ++ t.tokens

theorem openTokens_cons (f : Frame) (outer : List Frame) :
    openTokens (f :: outer) = openTokens outer ++ f.tokens := by
  simp [openTokens]

theorem tokens_begin? {outer : List Frame} {t : Token} {s : State}
    (h : begin? outer t = some s) : s.tokens = openTokens outer ++ [t] := by
  cases t <;> cases h <;> simp [tokens, Tree.tokens]

theorem tokens_step? {s s' : State} {t : Token} (h : s.step? t = some s') :
    s'.tokens = s.tokens ++ [t] := by
  unfold step? at h
  split at h
  -- Two cases begin a value; in the others the innermost container gets one token more.
  case h_1 => exact tokens_begin? h
  case h_3 => rw [tokens_begin? h, openTokens_cons]; rfl
  case h_12 => cases h
  all_goals
    cases h
    simp [tokens, Tree.tokens, openTokens_cons, Frame.tokens, closedItems, closedMembers,
      tokens_array_concat, tokens_object_concat]

theorem tokens_run? {s s' : State} {ts : List Token} (h : run? s ts = some s') :
    s'.tokens = s.tokens ++ ts := by
  induction ts generalizing s with
  | nil =>
    cases h
    exact (List.append_nil _).symm
  | cons t ts ih =>
    rw [run?_cons] at h
    obtain ⟨s₁, h₁, h⟩ := Option.bind_eq_some_iff.mp h
    rw [ih h, tokens_step? h₁, List.append_assoc, List.singleton_append]

end State

/-- Tokens are read as a document if and only if they are its tokens. -/
theorem ofTokens?_eq_some_iff {ts : List Token} {t : Tree} :
    ofTokens? ts = some t ↔ ts = t.tokens := by
  constructor
  · intro h
    obtain ⟨s, hs, hr⟩ := Option.bind_eq_some_iff.mp h
    have ht := State.tokens_run? hs
    unfold State.result? at hr
    split at hr <;> cases hr
    exact ht.symm
  · rintro rfl
    exact ofTokens?_tokens t

/-- How a document is written. -/
def Written (t : Tree) (cs : List Char) : Prop := Token.AllWritten t.tokens cs

/-- A text is read as a document if and only if it is this document as written. -/
theorem ofText?_eq_some_iff {cs : List Char} {t : Tree} : ofText? cs = some t ↔ t.Written cs := by
  constructor
  · intro h
    obtain ⟨ts, hts, ht⟩ := Option.bind_eq_some_iff.mp h
    obtain rfl := ofTokens?_eq_some_iff.mp ht
    exact Token.allWritten_of_ofText? hts
  · intro h
    have hs : Token.Separated (t.tokens ++ []) := separated_tokens t List.isChain_nil nofun
    rw [List.append_nil] at hs
    rw [ofText?, Token.AllWritten.ofText? h hs, Option.bind_some, ofTokens?_tokens]

end Tree

end AuditTrail.Json
