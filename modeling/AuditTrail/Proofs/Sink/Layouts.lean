import AuditTrail.Proofs.Json.Paths
import AuditTrail.Proofs.Text.Split
import AuditTrail.Remote.Registry

/-! # Layouts of settings

Settings may be written under their whole paths or as objects within objects. As long as no path
leads through another one, both layouts give each setting its value, and whatever reads texts and
truth values reads the same from both.
-/

namespace AuditTrail.Sink.Settings

open Json (Value)
open Text (split splitWhere)

/-! ## Dotted paths -/

/-- A dotted path is another one, or goes on from it. -/
def GoesOn (path other : String) : Prop := path = other ∨ ∃ rest, path = other ++ "." ++ rest

theorem goesOn_iff {path other : String} :
    GoesOn path other ↔ split '.' other <+: split '.' path := by
  rw [split, split, List.prefix_map_iff_of_injective fun _ _ => String.ofList_injective]
  constructor
  · rintro (rfl | ⟨rest, rfl⟩)
    · exact List.prefix_refl _
    · have hs : (other ++ "." ++ rest).toList = other.toList ++ '.' :: rest.toList := by simp
      rw [hs, Text.splitWhere_append_cons (by rfl)]
      exact List.prefix_append _ _
  · rintro ⟨names, hn⟩
    have hp := Text.intercalate_splitWhere '.' path.toList
    rw [← hn] at hp
    by_cases hnames : names = []
    · rw [hnames, List.append_nil, Text.intercalate_splitWhere] at hp
      exact Or.inl (String.toList_inj.mp hp.symm)
    · rw [Text.intercalate_append '.' (Text.splitWhere_ne_nil _) hnames,
        Text.intercalate_splitWhere] at hp
      refine Or.inr ⟨String.ofList (List.intercalate ['.'] names), String.toList_inj.mp ?_⟩
      rw [← hp]
      simp

instance (path other : String) : Decidable (GoesOn path other) :=
  decidable_of_iff _ goesOn_iff.symm

/-! ## Two layouts -/

/-- Settings that can be laid out: each path has a scalar, and no path is another one or goes on
from it. -/
structure IsLayable (pairs : List (String × Value)) : Prop where
  scalars : ∀ p ∈ pairs, p.2.IsScalar
  apart : pairs.Pairwise fun p q => ¬ GoesOn p.1 q.1 ∧ ¬ GoesOn q.1 p.1

/-- The settings as one object, each under its whole path. -/
def flat (pairs : List (String × Value)) : Settings := .ofList pairs

/-- The paths of settings, each as the names along it. -/
def paths (pairs : List (String × Value)) : List (List String × Value) :=
  pairs.map fun p => (split '.' p.1, p.2)

/-- The settings as objects within objects, each at the end of its path. -/
def nested (pairs : List (String × Value)) : Settings :=
  .ofValue (.ofPaths (paths pairs))

variable {pairs : List (String × Value)} {s t : Settings} {path : String} {v : Value}

namespace IsLayable

theorem nodup (h : IsLayable pairs) : (pairs.map Prod.fst).Nodup :=
  List.pairwise_map.mpr (h.apart.imp fun hpq he => hpq.1 (Or.inl he))

theorem apart_paths (h : IsLayable pairs) :
    (paths pairs).Pairwise fun d e => Value.Apart d.1 e.1 := by
  refine List.pairwise_map.mpr (h.apart.imp fun hpq => ⟨fun hp => hpq.2 ?_, fun hp => hpq.1 ?_⟩)
  · exact goesOn_iff.mpr hp
  · exact goesOn_iff.mpr hp

end IsLayable

/-- Under whole paths, the walk through objects never finds anything more. -/
theorem get?_flat (h : IsLayable pairs) : (flat pairs).get? path = some v ↔ (path, v) ∈ pairs := by
  have hf : ∀ {name w}, (flat pairs).find? name = some w ↔ (name, w) ∈ pairs :=
    Entries.find?_ofList_eq_some_iff h.nodup
  rw [get?, ← hf]
  cases hp : (flat pairs).find? path with
  | some w => rfl
  | none =>
    obtain ⟨name, names, hn⟩ := List.exists_cons_of_ne_nil (Text.split_ne_nil '.' path)
    have hw : (flat pairs).walk? (split '.' path) = none := by
      rw [hn, walk?, Option.bind_eq_none_iff]
      intro w hname
      refine (h.scalars _ (hf.mp hname)).at? ?_
      rintro rfl
      have hs : split '.' name = [name] := Text.split_of_mem_split (hn ▸ List.mem_cons_self)
      rw [Text.split_injective (hn.trans hs.symm), hname] at hp
      cases hp
    simp [hw]

theorem find?_ofValue (h : Ascending v.members) (name : String) :
    (ofValue v).find? name = v.member? name := by
  cases v with
  | object members => exact congrArg (Entries.find? name) (Entries.ofList_of_ascending h)
  | _ => rfl

theorem get?_nested_eq (pairs : List (String × Value)) (path : String) :
    (nested pairs).get? path = (Value.ofPaths (paths pairs)).at? (split '.' path) := by
  have hne : ∀ e ∈ paths pairs, e.1 ≠ [] := by
    intro e he
    obtain ⟨p, -, rfl⟩ := List.mem_map.mp he
    exact Text.split_ne_nil '.' p.1
  have hf : ∀ name, (nested pairs).find? name = (Value.ofPaths (paths pairs)).member? name :=
    find?_ofValue (Value.ascending_members_ofPaths hne)
  have hw : (nested pairs).walk? (split '.' path) =
      (Value.ofPaths (paths pairs)).at? (split '.' path) := by
    obtain ⟨name, names, hn⟩ := List.exists_cons_of_ne_nil (Text.split_ne_nil '.' path)
    rw [hn, walk?, Value.at?_cons, hf]
    rfl
  rw [get?]
  cases hp : (nested pairs).find? path with
  | none => exact hw
  | some w =>
    rw [hf] at hp
    have hat : (Value.ofPaths (paths pairs)).at? [path] = some w := by
      rw [Value.at?_cons, hp]
      rfl
    obtain ⟨e, he, hpre⟩ := Value.exists_of_at?_ofPaths (List.cons_ne_nil path []) hat
    have hmem : path ∈ e.1 := by
      obtain ⟨name, names, hn⟩ := List.exists_cons_of_ne_nil (hne e he)
      rw [hn, List.cons_prefix_cons, List.cons_prefix_cons] at hpre
      have hname : path = name := hpre.elim (fun h => h.1.symm) And.left
      rw [hn, hname]
      exact List.mem_cons_self
    obtain ⟨p, -, rfl⟩ := List.mem_map.mp he
    rw [Text.split_of_mem_split hmem]
    exact hat.symm

/-- The scalars of nested objects are the settings. -/
theorem get?_nested (h : IsLayable pairs) (hv : v.IsScalar) :
    (nested pairs).get? path = some v ↔ (path, v) ∈ pairs := by
  have hs : ∀ e ∈ paths pairs, e.2.IsScalar := by
    intro e he
    obtain ⟨p, hp, rfl⟩ := List.mem_map.mp he
    exact h.scalars p hp
  rw [get?_nested_eq, Value.at?_ofPaths_eq_some_iff h.apart_paths hs hv, paths, List.mem_map]
  constructor
  · rintro ⟨p, hp, he⟩
    rw [Prod.mk.injEq] at he
    obtain ⟨hpath, rfl⟩ := he
    rwa [← Text.split_injective hpath]
  · exact fun hp => ⟨_, hp, rfl⟩

/-! ## Reading settings -/

/-- Two settings have the same scalars under the same paths. -/
def SameScalars (s t : Settings) : Prop :=
  ∀ path v, v.IsScalar → (s.get? path = some v ↔ t.get? path = some v)

theorem sameScalars_nested_flat (h : IsLayable pairs) : SameScalars (nested pairs) (flat pairs) :=
  fun _ _ hv => (get?_nested h hv).trans (get?_flat h).symm

theorem text?_eq_some_iff {text : String} : s.text? path = some text ↔
    ∃ u, s.get? path = some (.string u) ∧ Text.trim u = text ∧ text ≠ "" := by
  rw [text?, Option.filter_eq_some_iff, Option.map_eq_some_iff]
  constructor
  · rintro ⟨⟨u, hu, ht⟩, hne⟩
    obtain ⟨v, hv, hs⟩ := Option.bind_eq_some_iff.mp hu
    cases v with
    | string w =>
      obtain rfl := Option.some.inj hs
      exact ⟨w, hv, ht, by simpa using hne⟩
    | _ => cases hs
  · rintro ⟨u, hu, ht, hne⟩
    exact ⟨⟨u, by rw [hu]; rfl, ht⟩, by simpa using hne⟩

theorem bool?_eq_some_iff {b : Bool} : s.bool? path = some b ↔ s.get? path = some (.bool b) ∨
    ∃ u, s.get? path = some (.string u) ∧ Text.trim u = if b then "true" else "false" := by
  rw [bool?]
  cases s.get? path with
  | none => simp
  | some v =>
    cases v with
    | string u =>
      by_cases ht : Text.trim u = "true"
      · cases b <;> simp [ht]
      · by_cases hf : Text.trim u = "false"
        · cases b <;> simp [hf]
        · cases b <;> simp [ht, hf]
    | _ => simp

namespace SameScalars

theorem text? (h : SameScalars s t) : s.text? = t.text? := by
  funext path
  refine Option.ext fun text => ?_
  have hu : ∀ u, s.get? path = some (.string u) ↔ t.get? path = some (.string u) := fun u =>
    h path (.string u) trivial
  simp only [text?_eq_some_iff, hu]

theorem bool? (h : SameScalars s t) : s.bool? = t.bool? := by
  funext path
  refine Option.ext fun b => ?_
  have hb : s.get? path = some (.bool b) ↔ t.get? path = some (.bool b) := h path (.bool b) trivial
  have hu : ∀ u, s.get? path = some (.string u) ↔ t.get? path = some (.string u) := fun u =>
    h path (.string u) trivial
  simp only [bool?_eq_some_iff, hb, hu]

theorem clientOptions (h : SameScalars s t) (group : String) :
    Remote.ClientOptions.ofSettings s group = Remote.ClientOptions.ofSettings t group := by
  rw [Remote.ClientOptions.ofSettings, Remote.ClientOptions.ofSettings, h.text?, h.bool?]

theorem storage (h : SameScalars s t) (group : String) :
    Storage.ofSettings group s = Storage.ofSettings group t := by
  rw [Storage.ofSettings, Storage.ofSettings, h.text?]

theorem webhook (h : SameScalars s t) :
    Remote.Webhook.ofSettings s = Remote.Webhook.ofSettings t := by
  rw [Remote.Webhook.ofSettings, Remote.Webhook.ofSettings, h.text?, h.clientOptions]

theorem store (h : SameScalars s t) : Remote.Store.ofSettings s = Remote.Store.ofSettings t := by
  rw [Remote.Store.ofSettings, Remote.Store.ofSettings, h.text?, h.clientOptions]

end SameScalars

/-- Settings whose paths lead through none of each other are the same whether they are laid out
under whole paths or as objects within objects: each listed path has its value, any path has the
same text and the same truth value, and so each group of settings is read alike. Segments of
paths may be empty too. -/
theorem layouts_agree (h : IsLayable pairs) :
    (∀ p ∈ pairs, (flat pairs).get? p.1 = some p.2 ∧ (nested pairs).get? p.1 = some p.2) ∧
      (∀ path, (nested pairs).text? path = (flat pairs).text? path ∧
        (nested pairs).bool? path = (flat pairs).bool? path) ∧
      (∀ group, Remote.ClientOptions.ofSettings (nested pairs) group =
        Remote.ClientOptions.ofSettings (flat pairs) group) ∧
      (∀ group, Storage.ofSettings group (nested pairs) = Storage.ofSettings group (flat pairs)) ∧
      Remote.Webhook.ofSettings (nested pairs) = Remote.Webhook.ofSettings (flat pairs) ∧
      Remote.Store.ofSettings (nested pairs) = Remote.Store.ofSettings (flat pairs) := by
  have hs := sameScalars_nested_flat h
  refine ⟨fun p hp => ⟨?flat, ?nested⟩, fun path => ⟨?text, ?bool⟩, hs.clientOptions, hs.storage,
    hs.webhook, hs.store⟩
  case flat => exact (get?_flat h).mpr hp
  case nested => exact (get?_nested h (h.scalars p hp)).mpr hp
  case text => rw [hs.text?]
  case bool => rw [hs.bool?]

/-- Paths that share their beginnings, in no order, with one name that begins like another; a path
that ends at an object has neither a text nor a truth value, and one that goes on from a scalar has
none either. -/
theorem layouts_agree_of_shared_groups :
    let pairs : List (String × Value) := [("webhook.ssl.verify", .string " false "),
      ("storage.index", .string "'audit-'yyyy"), ("webhook.url", .string "http://[::1]/in"),
      ("web", .null), ("webhook.format", .string "JSON"), ("webhook.use_system_proxy", .bool false)]
    IsLayable pairs ∧
      (nested pairs).get? "webhook.ssl.verify" = some (.string " false ") ∧
      (nested pairs).text? "webhook.ssl" = none ∧ (nested pairs).bool? "web.ssl" = none ∧
      Remote.ClientOptions.ofSettings (nested pairs) "webhook" =
        { verifyTls := false, systemProxy := false } := by
  intro pairs
  have h : IsLayable pairs := ⟨by decide +kernel, by decide +kernel⟩
  obtain ⟨hget, hread, hclient, -⟩ := layouts_agree h
  refine ⟨h, (hget _ List.mem_cons_self).2, ?text, ?bool, ?client⟩
  case text =>
    rw [(hread _).1]
    decide +kernel
  case bool =>
    rw [(hread _).2]
    decide +kernel
  case client =>
    rw [hclient]
    decide +kernel

end AuditTrail.Sink.Settings
