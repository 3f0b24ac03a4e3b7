import AuditTrail.Context
import AuditTrail.Proofs.Json.Limits
import AuditTrail.Proofs.Json.RoundTrip

/-! # Identity from headers

What a header of another node stands for. Its text may be a string or an object as written, within
the limits of the reader; any other text stands for itself. The header counts only where neither
the caller nor the context states a value.
-/

namespace AuditTrail.Context

open Json

/-! ## What a text stands for -/

theorem valueOfText?_of_written {raw : String} {t : Tree} (h : t.Written raw.toList) :
    Value.ofText? raw = t.value? Value.depthLimit := by
  rw [Value.ofText?, Value.ofChars?, Tree.ofText?_eq_some_iff.mpr h, Option.bind_some]

theorem headerText_string {raw s : String} (h : (Tree.string (some s)).Written raw.toList) :
    headerText raw = some s := by
  rw [headerText, valueOfText?_of_written h]
  rfl

/-- An object within the limits stands for the value of its last member of the name, if that is a
string. -/
theorem headerText_object {raw : String} {ms : List (Option String × Tree)}
    (h : (Tree.object ms).Written raw.toList)
    (hr : (Tree.object ms).IsReadable Value.depthLimit) :
    ∃ n vs, Tree.members? n ms [] = some vs ∧
      headerText raw = (Entries.find? "name" vs).bind Value.string? := by
  obtain ⟨v, hv⟩ := Option.isSome_iff_exists.mp (Tree.isReadable_iff.mp hr)
  have ho := hv
  rw [Value.depthLimit, Tree.value?] at ho
  obtain ⟨vs, hvs, rfl⟩ := Option.map_eq_some_iff.mp ho
  exact ⟨_, vs, hvs, by rw [headerText, valueOfText?_of_written h, hv]⟩

theorem headerText_named {raw s : String} {ms : List (Option String × Tree)}
    (h : (Tree.object ms).Written raw.toList)
    (hr : (Tree.object ms).IsReadable Value.depthLimit)
    (hl : Tree.LastMember ms "name" (.string (some s))) : headerText raw = some s := by
  obtain ⟨n, vs, hvs, hraw⟩ := headerText_object h hr
  rw [hraw, Tree.find?_members?_of_lastMember hvs hl]
  rfl

theorem headerText_nameless {raw : String} {ms : List (Option String × Tree)}
    (h : (Tree.object ms).Written raw.toList)
    (hr : (Tree.object ms).IsReadable Value.depthLimit)
    (hn : ∀ s, ¬ Tree.LastMember ms "name" (.string (some s))) : headerText raw = none := by
  obtain ⟨n, vs, hvs, hraw⟩ := headerText_object h hr
  rw [hraw]
  rcases Tree.forall_ne_or_exists_lastMember ms "name" with hm | ⟨t, hl⟩
  · rw [Tree.find?_members?_of_forall_ne hvs hm]
    rfl
  · rw [Tree.find?_members?_of_lastMember hvs hl]
    rcases hv : t.value? n with _ | v
    · rfl
    · cases v with
      | string s => exact absurd hl (Tree.eq_string_of_value? hv ▸ hn s)
      | _ => rfl

/-- Text that is neither a string nor an object within the limits stands for itself. -/
theorem headerText_other {raw : String}
    (h : ∀ t : Tree, t.Written raw.toList → t.IsReadable Value.depthLimit →
      (∀ text, t ≠ .string text) ∧ ∀ ms, t ≠ .object ms) : headerText raw = some raw := by
  have hv : ∀ {v : Value}, Value.ofText? raw = some v →
      ∃ t : Tree, t.value? Value.depthLimit = some v ∧
        (∀ text, t ≠ .string text) ∧ ∀ ms, t ≠ .object ms := by
    intro v hv
    obtain ⟨t, ht, hv⟩ := Option.bind_eq_some_iff.mp hv
    exact ⟨t, hv, h t (Tree.ofText?_eq_some_iff.mp ht) (Tree.isReadable_iff.mpr (by rw [hv]; rfl))⟩
  unfold headerText
  split
  · next s hs =>
    obtain ⟨t, ht, hn, -⟩ := hv hs
    exact absurd (Tree.eq_string_of_value? ht) (hn _)
  · next vs hs =>
    obtain ⟨t, ht, -, hn⟩ := hv hs
    obtain ⟨ms, rfl⟩ := Tree.exists_object_of_value? ht
    exact absurd rfl (hn ms)
  · rfl

/-! ## Headers -/

/-- A text, unless it is empty. -/
def unlessEmpty (s : String) : Option String := if s = "" then none else some s

/-- What a header gives, for each kind of text that it may hold. -/
structure FromHeader (ctx : Context) (key : String) (found : Option String) : Prop where
  missing : ctx.headers.find? key = none → found = none
  string {raw s : String} : ctx.headers.find? key = some raw →
    (Tree.string (some s)).Written raw.toList → found = unlessEmpty s
  /-- Of several members of the name the last one counts. -/
  object {raw s : String} {ms : List (Option String × Tree)} :
    ctx.headers.find? key = some raw → (Tree.object ms).Written raw.toList →
    (Tree.object ms).IsReadable Value.depthLimit →
    Tree.LastMember ms "name" (.string (some s)) → found = unlessEmpty s
  nameless {raw : String} {ms : List (Option String × Tree)} :
    ctx.headers.find? key = some raw → (Tree.object ms).Written raw.toList →
    (Tree.object ms).IsReadable Value.depthLimit →
    (∀ s, ¬ Tree.LastMember ms "name" (.string (some s))) → found = none
  /-- No string and no object, be it another document or none at all. -/
  other {raw : String} : ctx.headers.find? key = some raw →
    (∀ text, ¬ (Tree.string text).Written raw.toList) →
    (∀ ms, ¬ (Tree.object ms).Written raw.toList) → found = unlessEmpty raw
  /-- A document beyond the limits of the reader. -/
  unreadable {raw : String} {t : Tree} : ctx.headers.find? key = some raw →
    t.Written raw.toList → ¬ t.IsReadable Value.depthLimit → found = some raw

theorem header?_eq {ctx : Context} {key raw : String} (h : ctx.headers.find? key = some raw) :
    ctx.header? key = (headerText raw).bind unlessEmpty := by
  rw [header?, h, Option.bind_some]
  cases headerText raw with
  | none => rfl
  | some s => by_cases hs : s = "" <;> simp [unlessEmpty, Option.filter, hs]

theorem fromHeader_header? (ctx : Context) (key : String) :
    ctx.FromHeader key (ctx.header? key) where
  missing h := by
    rw [header?, h]
    rfl
  string h hw := by rw [header?_eq h, headerText_string hw, Option.bind_some]
  object h hw hr hl := by rw [header?_eq h, headerText_named hw hr hl, Option.bind_some]
  nameless h hw hr hn := by rw [header?_eq h, headerText_nameless hw hr hn, Option.bind_none]
  other h hs ho := by
    have hraw := headerText_other fun t ht _ =>
      ⟨fun text he => hs text (he ▸ ht), fun ms he => ho ms (he ▸ ht)⟩
    rw [header?_eq h, hraw, Option.bind_some]
  unreadable {raw t} h hw hr := by
    have hraw : headerText raw = some raw := headerText_other fun u hu hur => by
      have hut : u = t := Option.some.inj
        ((Tree.ofText?_eq_some_iff.mpr hu).symm.trans (Tree.ofText?_eq_some_iff.mpr hw))
      exact absurd (hut ▸ hur) hr
    have hne : raw ≠ "" := by
      rintro rfl
      cases Tree.ofText?_eq_some_iff.mpr hw
    rw [header?_eq h, hraw, Option.bind_some, unlessEmpty, if_neg hne]

/-! ## Who sends a request, and from where -/

/-- What the caller states wins, then what the context states. Without both, a header that holds a
string or an object with a name gives this text back, any other text itself, and nothing if there
is no text. -/
theorem identity_resolved (ctx : Context) :
    (∀ u, ctx.resolveUser (some u) = some u) ∧
    (∀ u, ctx.user = some u → ctx.resolveUser none = some u) ∧
    (ctx.user = none → ctx.FromHeader userHeader (ctx.resolveUser none)) ∧
    (∀ a, ctx.remoteAddress = some a → ctx.resolveRemoteAddress = some a) ∧
    (ctx.remoteAddress = none →
      ctx.FromHeader remoteAddressHeader ctx.resolveRemoteAddress) := by
  refine ⟨fun u => rfl, fun u hu => ?_, fun hu => ?_, fun a ha => ?_, fun ha => ?_⟩
  · rw [resolveUser, hu]
    rfl
  · rw [resolveUser, hu]
    exact fromHeader_header? ctx userHeader
  · rw [resolveRemoteAddress, ha]
    rfl
  · rw [resolveRemoteAddress, ha]
    exact fromHeader_header? ctx remoteAddressHeader

/-- Of two members of the name the last one tells who sends the request. -/
theorem identity_resolved_last_name :
    let raw := "\x7b\"name\":\"eve\",\"name\":\"bob\"\x7d"
    let ctx : Context := { headers := Table.ofList [(userHeader, raw)] }
    ctx.user = none ∧ ctx.headers.find? userHeader = some raw ∧
      ctx.resolveUser none = some "bob" := by
  intro raw ctx
  let ms : List (Option String × Tree) :=
    [(some "name", .string (some "eve")), (some "name", .string (some "bob"))]
  have hf : ctx.headers.find? userHeader = some raw := by decide +kernel
  have hw : (Tree.object ms).Written raw.toList := Tree.ofText?_eq_some_iff.mp (by
    simp only [raw, String.reduceToList]
    rfl)
  have hr : (Tree.object ms).IsReadable Value.depthLimit := ⟨by decide, by decide⟩
  have hl : Tree.LastMember ms "name" (.string (some "bob")) := ⟨[_], [], rfl, nofun⟩
  exact ⟨rfl, hf, ((identity_resolved ctx).2.2.1 rfl).object hf hw hr hl⟩

/-- Beside a number that exceeds every double a name is not found, and the text stands for itself. -/
theorem name_lost_beside_endless_number :
    let raw := "\x7b\"name\":\"bob\",\"n\":1e400\x7d"
    let ms : List (Option String × Tree) :=
      [(some "name", .string (some "bob")),
        (some "n", .number { whole := [1], exponent := some (false, [4, 0, 0]) })]
    let ctx : Context := { headers := Table.ofList [(userHeader, raw)] }
    ctx.user = none ∧ ctx.headers.find? userHeader = some raw ∧
      (Tree.object ms).Written raw.toList ∧ (Tree.object ms).depth ≤ Value.depthLimit ∧
      Tree.LastMember ms "name" (.string (some "bob")) ∧ ctx.resolveUser none ≠ some "bob" := by
  intro raw ms ctx
  have hf : ctx.headers.find? userHeader = some raw := by decide +kernel
  have hw : (Tree.object ms).Written raw.toList := Tree.ofText?_eq_some_iff.mp (by
    simp only [raw, String.reduceToList]
    rfl)
  have hr : ¬ (Tree.object ms).IsReadable Value.depthLimit := fun h =>
    absurd h.hasMeaning (by decide)
  have hu : ctx.resolveUser none = some raw :=
    (fromHeader_header? ctx userHeader).unreadable hf hw hr
  refine ⟨rfl, hf, hw, by decide, ⟨[], _, rfl, by decide⟩, ?_⟩
  rw [hu]
  decide +kernel

end AuditTrail.Context
