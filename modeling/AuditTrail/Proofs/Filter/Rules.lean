import AuditTrail.Filter
import AuditTrail.Proofs.Category

/-! # The rules of the filter

A configuration is text, and the switches change while the program runs. The filter admits a
subject if and only if some rules about that text and those changes hold; none of them asks for
more when lists get shorter or layers and switches are turned on.
-/

namespace AuditTrail

/-- One configuration has every layer off that another has, and every entry on its lists. -/
structure Config.Narrows (c c' : Config) : Prop where
  rest : c.enableRest = true → c'.enableRest = true
  transport : c.enableTransport = true → c'.enableTransport = true
  categories : c'.disabledCategories ⊆ c.disabledCategories
  users : c'.ignoreUsers ⊆ c.ignoreUsers
  requests : c'.ignoreRequests ⊆ c.ignoreRequests

/-! ## Decisions -/

namespace Filter

open CategoryFlags (Change LastOn)

/-- What has to hold of a subject for it to be recorded. -/
structure Rules (engine : Pattern.Engine) (c : Config) (changes : List Change) (s : Subject) :
    Prop where
  /-- The layer is on, unless the category is security critical. -/
  layer : (s.origin = .rest ∧ c.enableRest = true) ∨
    (s.origin = .transport ∧ c.enableTransport = true) ∨
    s.category ∈ [.failedLogin, .missingPrivileges, .indexAttempt]
  /-- No action of the store's own. -/
  action : s.origin = .transport → ∀ a, s.action = some a →
    ∀ start ∈ ["internal:", "cluster:monitor", "indices:monitor"], ¬ start.toList <+: a.toList
  user : ∀ u, s.effectiveUser = some u →
    ∀ p ∈ c.ignoreUsers, (Pattern.ofText engine p).accepts u = false
  /-- Neither the action nor the type is ignored. -/
  request : s.origin = .transport → ∀ n, s.action = some n ∨ s.requestType = some n →
    ∀ p ∈ c.ignoreRequests, (Pattern.ofText engine p).accepts n = false
  path : s.origin = .rest → ∀ n, s.restPath = some n →
    ∀ p ∈ c.ignoreRequests, (Pattern.ofText engine p).accepts n = false
  listed : ∀ e ∈ c.disabledCategories, ¬ s.category.Named e
  switch : LastOn s.category changes

theorem accepts_ofTexts_eq_false_iff (engine : Pattern.Engine) (texts : List String)
    (candidate : String) :
    (Pattern.Any.ofTexts engine texts).accepts candidate = false ↔
      ∀ p ∈ texts, (Pattern.ofText engine p).accepts candidate = false := by
  simp [Pattern.Any.accepts, Pattern.Any.ofTexts]

theorem isInternalAction_eq_false_iff (a : String) :
    isInternalAction a = false ↔
      ∀ start ∈ ["internal:", "cluster:monitor", "indices:monitor"],
        ¬ start.toList <+: a.toList := by
  simp only [isInternalAction, internalActionStarts, List.any_eq_false, String.isPrefixOf,
    String.startsWith_string_iff]

theorem contains_disabled_ofConfig_eq_false_iff (engine : Pattern.Engine) (c : Config)
    (category : Category) :
    (ofConfig engine c).disabled.contains category = false ↔
      ∀ e ∈ c.disabledCategories, ¬ category.Named e := by
  simp only [ofConfig, List.contains_eq_mem, decide_eq_false_iff_not, List.mem_filterMap,
    Category.ofName?_eq_some_iff, not_exists, not_and]

theorem isSecurityCritical_iff (category : Category) :
    category.isSecurityCritical = true ↔
      category ∈ [.failedLogin, .missingPrivileges, .indexAttempt] := by
  cases category <;> decide

variable (engine : Pattern.Engine) (c : Config) (changes : List Change) (s : Subject)

theorem layer_iff :
    ((ofConfig engine c).layerEnabled s.origin || s.category.isSecurityCritical) = true ↔
      (s.origin = .rest ∧ c.enableRest = true) ∨
        (s.origin = .transport ∧ c.enableTransport = true) ∨
        s.category ∈ [.failedLogin, .missingPrivileges, .indexAttempt] := by
  rw [Bool.or_eq_true, isSecurityCritical_iff, ← or_assoc]
  refine or_congr ?_ Iff.rfl
  cases s.origin <;> simp [layerEnabled, ofConfig]

theorem action_iff :
    (s.origin == .transport && s.action.any isInternalAction) = false ↔
      (s.origin = .transport → ∀ a, s.action = some a →
        ∀ start ∈ ["internal:", "cluster:monitor", "indices:monitor"],
          ¬ start.toList <+: a.toList) := by
  rw [Bool.and_eq_false_imp, beq_iff_eq]
  refine imp_congr Iff.rfl ?_
  cases s.action with
  | none => simp
  | some a => simp only [Option.any_some, isInternalAction_eq_false_iff, Option.some.injEq,
      forall_eq']

theorem user_iff :
    s.effectiveUser.any (ofConfig engine c).ignoredUsers.accepts = false ↔
      ∀ u, s.effectiveUser = some u →
        ∀ p ∈ c.ignoreUsers, (Pattern.ofText engine p).accepts u = false := by
  cases s.effectiveUser with
  | none => simp
  | some u => simp only [Option.any_some, ofConfig, accepts_ofTexts_eq_false_iff,
      Option.some.injEq, forall_eq']

/-- What is looked for among ignored requests is the path on one layer, the action and the type on
the other. -/
theorem requestNames_iff :
    s.requestNames.any (ofConfig engine c).ignoredRequests.accepts = false ↔
      (s.origin = .transport → ∀ n, s.action = some n ∨ s.requestType = some n →
        ∀ p ∈ c.ignoreRequests, (Pattern.ofText engine p).accepts n = false) ∧
      (s.origin = .rest → ∀ n, s.restPath = some n →
        ∀ p ∈ c.ignoreRequests, (Pattern.ofText engine p).accepts n = false) := by
  simp only [List.any_eq_false, Bool.not_eq_true, ofConfig, accepts_ofTexts_eq_false_iff,
    Subject.requestNames]
  cases s.origin <;> simp

theorem names_of_admits {f : Filter} {flags : CategoryFlags} {s : Subject}
    (h : f.admits flags s = true) : s.requestNames.any f.ignoredRequests.accepts = false := by
  simp only [admits, Bool.and_eq_true, Bool.not_eq_true'] at h
  exact h.1.1.2

theorem admits_iff :
    (ofConfig engine c).admits (.after changes) s = true ↔ Rules engine c changes s := by
  unfold admits
  rw [Bool.and_eq_true, Bool.and_eq_true, Bool.and_eq_true, Bool.and_eq_true, Bool.and_eq_true,
    Bool.not_eq_true', Bool.not_eq_true', Bool.not_eq_true', Bool.not_eq_true', layer_iff,
    action_iff, user_iff, requestNames_iff, contains_disabled_ofConfig_eq_false_iff,
    CategoryFlags.enabled_after_iff]
  constructor
  · rintro ⟨⟨⟨⟨⟨hl, ha⟩, hu⟩, hr, hp⟩, hd⟩, hs⟩
    exact ⟨hl, ha, hu, hr, hp, hd, hs⟩
  · rintro ⟨hl, ha, hu, hr, hp, hd, hs⟩
    exact ⟨⟨⟨⟨⟨hl, ha⟩, hu⟩, hr, hp⟩, hd⟩, hs⟩

/-! ## Stricter configurations -/

variable {engine c changes s} {c' : Config}

theorem Rules.of_narrows (h : Rules engine c changes s) (hn : c.Narrows c') :
    Rules engine c' changes s where
  layer := h.layer.imp (And.imp_right hn.rest) (Or.imp_left (And.imp_right hn.transport))
  action := h.action
  user u hu p hp := h.user u hu p (hn.users hp)
  request ho n hs p hp := h.request ho n hs p (hn.requests hp)
  path ho n hs p hp := h.path ho n hs p (hn.requests hp)
  listed e he := h.listed e (hn.categories he)
  switch := h.switch

theorem Rules.of_concat_off {d : Category} (h : Rules engine c (changes ++ [.set d false]) s) :
    Rules engine c changes s := by
  refine { h with switch := ?_ }
  by_cases hd : d = s.category
  · have hs := h.switch
    rw [hd, CategoryFlags.lastOn_concat_set_self] at hs
    cases hs
  · exact (CategoryFlags.lastOn_concat_set_of_ne hd false changes).mp h.switch

theorem Rules.cons_unnamed {e : String} (he : ∀ d : Category, ¬ d.Named e) :
    Rules engine { c with disabledCategories := e :: c.disabledCategories } changes s ↔
      Rules engine c changes s := by
  constructor
  · intro h
    exact { h with listed := fun x hx => h.listed x (List.mem_cons_of_mem e hx) }
  · intro h
    exact { h with listed := List.forall_mem_cons.mpr ⟨he s.category, h.listed⟩ }

theorem admits_eq_false_of_imp {changes' : List Change}
    (hi : Rules engine c' changes' s → Rules engine c changes s)
    (h : (ofConfig engine c).admits (.after changes) s = false) :
    (ofConfig engine c').admits (.after changes') s = false := by
  rw [Bool.eq_false_iff, ne_eq, admits_iff] at h ⊢
  exact mt hi h

variable (engine c changes s) in
/-- The filter decides by its rules alone. The order of entries and their repetition do not
matter, entries that name no category do nothing, and with more entries or fewer switches on what
was rejected still is. -/
theorem decision_by_rules :
    ((ofConfig engine c).admits (.after changes) s = true ↔ Rules engine c changes s) ∧
    (∀ c' : Config, c'.enableRest = c.enableRest → c'.enableTransport = c.enableTransport →
      (∀ e, e ∈ c'.disabledCategories ↔ e ∈ c.disabledCategories) →
      (∀ p, p ∈ c'.ignoreUsers ↔ p ∈ c.ignoreUsers) →
      (∀ p, p ∈ c'.ignoreRequests ↔ p ∈ c.ignoreRequests) →
      (ofConfig engine c').admits (.after changes) s =
        (ofConfig engine c).admits (.after changes) s) ∧
    (∀ e, (∀ d : Category, ¬ d.Named e) →
      (ofConfig engine { c with disabledCategories := e :: c.disabledCategories }).admits
        (.after changes) s = (ofConfig engine c).admits (.after changes) s) ∧
    (∀ c' : Config, c'.Narrows c → (ofConfig engine c).admits (.after changes) s = false →
      (ofConfig engine c').admits (.after changes) s = false) ∧
    ∀ d, (ofConfig engine c).admits (.after changes) s = false →
      (ofConfig engine c).admits (.after (changes ++ [.set d false])) s = false := by
  refine ⟨admits_iff engine c changes s, ?_, ?_, ?_, ?_⟩
  · intro c' hr ht hd hu hq
    have h : c.Narrows c' := ⟨hr.trans, ht.trans, fun e => (hd e).mp, fun p => (hu p).mp,
      fun p => (hq p).mp⟩
    have h' : c'.Narrows c := ⟨hr.symm.trans, ht.symm.trans, fun e => (hd e).mpr,
      fun p => (hu p).mpr, fun p => (hq p).mpr⟩
    rw [Bool.eq_iff_iff, admits_iff, admits_iff]
    exact ⟨fun hs => hs.of_narrows h', fun hs => hs.of_narrows h⟩
  · intro e he
    rw [Bool.eq_iff_iff, admits_iff, admits_iff]
    exact Rules.cons_unnamed he
  · intro c' hn
    exact admits_eq_false_of_imp fun hs => hs.of_narrows hn
  · intro d
    exact admits_eq_false_of_imp Rules.of_concat_off

/-- A category that is listed in mixed case between blanks stays rejected when its layer is turned
off and a user is ignored, when the entry is repeated, and beside an entry that names none. -/
theorem decision_by_rules_mixed_case :
    let engine := Pattern.Regex.engine
    let c : Config := { disabledCategories := ["\t bad_Headers "], sink := .empty }
    let c' : Config := { c with enableRest := false, ignoreUsers := ["kibana*", "kibanaserver"] }
    let twice : Config := { c with disabledCategories := ["\t bad_Headers ", "\t bad_Headers "] }
    let unnamed : Config := { c with disabledCategories := "headers" :: c.disabledCategories }
    let changes : List Change := [.set .badHeaders false, .reset]
    let s : Subject := .rest .badHeaders (some "/_search") (some "alice")
    Category.badHeaders.Named "\t bad_Headers " ∧ c'.Narrows c ∧
      (∀ d : Category, ¬ d.Named "headers") ∧
      ∀ x ∈ [c, c', twice, unnamed], (ofConfig engine x).admits (.after changes) s = false := by
  intro engine c c' twice unnamed changes s
  have hb : Category.badHeaders.Named "\t bad_Headers " :=
    ⟨['\t', ' '], "bad_Headers".toList, [' '], rfl, List.all_eq_true.mp (by decide), by decide⟩
  have hn : c'.Narrows c := ⟨nofun, id, fun _ => id, List.subset_cons_self _ _, fun _ => id⟩
  have hu : ∀ d : Category, ¬ d.Named "headers" := by
    intro d hd
    have hs : Category.ofName? "headers" = none := by decide +kernel
    rw [Category.ofName?_eq_some_iff.mpr hd] at hs
    cases hs
  obtain ⟨hr, hl, he, hc, -⟩ := decision_by_rules engine c changes s
  have hf : (ofConfig engine c).admits (.after changes) s = false :=
    Bool.eq_false_iff.mpr fun h => (hr.mp h).listed _ List.mem_cons_self hb
  have ht : (ofConfig engine twice).admits (.after changes) s =
      (ofConfig engine c).admits (.after changes) s :=
    hl twice rfl rfl (by simp [twice, c]) (fun _ => Iff.rfl) fun _ => Iff.rfl
  refine ⟨hb, hn, hu, ?_⟩
  simp only [List.forall_mem_cons, List.not_mem_nil, false_imp_iff, forall_true_iff, and_true]
  exact ⟨hf, hc c' hn hf, ht.trans hf, (he "headers" hu).trans hf⟩

end Filter

end AuditTrail
