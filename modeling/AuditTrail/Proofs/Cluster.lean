import AuditTrail.Cluster
import AuditTrail.Proofs.Entries
import AuditTrail.Proofs.Pattern.Glob

/-! # Which indices names refer to

A name that is compiled into a test, as a glob or as an expression, refers to the indices it matches
and to the targets of the aliases it matches, any other name to the targets of the alias or to the
index of that name. The indices of several names are those of each of them, except that the name for
all indices hides what the others refer to besides indices.
-/

namespace AuditTrail

namespace Pattern

/-! ## Texts that stand for several names -/

/-- What an engine makes of a text: of the expression of a glob, which is not written between
slashes and has a star or a question mark, or of what lies between slashes once it is put between
anchors. -/
inductive Compiles (e : Engine) (text : String) (test : List Char → Bool) : Prop
  | glob : (∀ body, text ≠ "/" ++ body ++ "/") → '*' ∈ text.toList ∨ '?' ∈ text.toList →
    e.compile? (Glob.expression text.toList) = some test → Compiles e text test
  | regex {body : String} : text = "/" ++ body ++ "/" →
    e.compile? (anchored body.toList) = some test → Compiles e text test

/-- A text that may stand for several names. -/
def IsWild (e : Engine) (text : String) : Prop := ∃ test, Compiles e text test

/-- A name that such a text stands for. -/
def WildMatches (e : Engine) (text name : String) : Prop :=
  ∃ test, Compiles e text test ∧ test name.toList = true

theorem betweenSlashes?_toList_iff {text body : String} :
    betweenSlashes? text.toList = some body.toList ↔ text = "/" ++ body ++ "/" := by
  rw [betweenSlashes?_eq_some_iff, ← String.toList_inj]
  simp

theorem betweenSlashes?_eq_none_iff {text : String} :
    betweenSlashes? text.toList = none ↔ ∀ body, text ≠ "/" ++ body ++ "/" := by
  rw [Option.eq_none_iff_forall_ne_some]
  constructor
  · intro h body hb
    exact h _ (betweenSlashes?_toList_iff.mpr hb)
  · intro h cs hcs
    exact h (String.ofList cs) (betweenSlashes?_toList_iff.mp (by rw [hcs, String.toList_ofList]))

theorem isGlob_iff {cs : List Char} : isGlob cs = true ↔ '*' ∈ cs ∨ '?' ∈ cs := by
  simp [isGlob]

variable {e : Engine} {text : String} {test : List Char → Bool}

theorem Compiles.ofText_eq (h : Compiles e text test) :
    ofText e text = .glob test ∨ ofText e text = .regex test := by
  cases h with
  | glob hs hg hc =>
    refine Or.inl ?_
    simp only [ofText, betweenSlashes?_eq_none_iff.mpr hs, isGlob_iff.mpr hg, if_true, hc]
  | regex hb hc =>
    refine Or.inr ?_
    simp only [ofText, betweenSlashes?_toList_iff.mpr hb, hc]

theorem isWildcard_ofText_iff : (ofText e text).isWildcard = true ↔ IsWild e text := by
  constructor
  · intro h
    unfold ofText at h
    dsimp only at h
    split at h
    · next cs hcs =>
      split at h
      · next test hc =>
        have hb := betweenSlashes?_toList_iff.mp (hcs.trans (by rw [String.toList_ofList]))
        exact ⟨test, .regex hb (by rwa [String.toList_ofList])⟩
      · cases h
    · next hn =>
      split at h
      · next hg =>
        split at h
        · next test hc =>
          exact ⟨test, .glob (betweenSlashes?_eq_none_iff.mp hn) (isGlob_iff.mp hg) hc⟩
        · cases h
      · cases h
  · rintro ⟨test, h⟩
    rcases h.ofText_eq with h | h
    · rw [h, isWildcard]
    · rw [h, isWildcard]

theorem Compiles.accepts_eq (h : Compiles e text test) (name : String) :
    (ofText e text).accepts name = test name.toList := by
  rcases h.ofText_eq with h | h
  · rw [h, accepts]
  · rw [h, accepts]

theorem IsWild.accepts_iff (h : IsWild e text) (name : String) :
    (ofText e text).accepts name = true ↔ WildMatches e text name := by
  obtain ⟨test, h⟩ := h
  constructor
  · intro ha
    exact ⟨test, h, (h.accepts_eq name).symm.trans ha⟩
  · rintro ⟨test', h', ht⟩
    exact (h'.accepts_eq name).trans ht

/-- A glob of this library may stand for several names, which are those that it covers. -/
theorem wildMatches_glob_iff (hs : ∀ body, text ≠ "/" ++ body ++ "/")
    (hg : '*' ∈ text.toList ∨ '?' ∈ text.toList) :
    IsWild Regex.engine text ∧
      ∀ name, WildMatches Regex.engine text name ↔ Glob.Covers text.toList name.toList := by
  have hw : IsWild Regex.engine text := ⟨_, .glob hs hg (compile?_expression text.toList)⟩
  exact ⟨hw, fun name => (hw.accepts_iff name).symm.trans (accepts_glob_iff hg hs)⟩

end Pattern

namespace Cluster

open Pattern (IsWild WildMatches)

variable (e : Pattern.Engine) (c : Cluster) (options : IndicesOptions)

/-! ## What one name refers to -/

/-- A name of a request refers to a name of the cluster, or to itself. -/
inductive Refers (name n : String) : Prop
  /-- An index that a wild name matches. -/
  | index : IsWild e name → options.expandWildcards = true → n ∈ c.indices.names →
    WildMatches e name n → Refers name n
  /-- A target of an alias that a wild name matches. -/
  | target {a : String} {targets : NameSet} : IsWild e name → options.expandWildcards = true →
    (a, targets) ∈ c.aliases.entries → WildMatches e name a → n ∈ targets.names → Refers name n
  /-- A target of the alias that a name states. -/
  | ofAlias {targets : NameSet} : ¬IsWild e name → (name, targets) ∈ c.aliases.entries →
    n ∈ targets.names → Refers name n
  /-- The index that a name states, or its absence that must not pass unnoticed. -/
  | stated : ¬IsWild e name → (∀ targets, (name, targets) ∉ c.aliases.entries) → n = name →
    n ∈ c.indices.names ∨ options.ignoreUnavailable = false → Refers name n

theorem find?_aliases_iff {name : String} {targets : NameSet} :
    c.aliases.find? name = some targets ↔ (name, targets) ∈ c.aliases.entries :=
  Entries.find?_eq_some_iff c.aliases.ascending

theorem find?_aliases_eq_none_iff {name : String} :
    c.aliases.find? name = none ↔ ∀ targets, (name, targets) ∉ c.aliases.entries := by
  rw [Option.eq_none_iff_forall_ne_some]
  exact forall_congr' fun targets => not_congr c.find?_aliases_iff

theorem mem_referredTo_iff {name n : String} :
    n ∈ c.referredTo e options name ↔ c.Refers e options name n := by
  unfold referredTo
  dsimp only
  by_cases hw : IsWild e name
  · rw [if_pos (Pattern.isWildcard_ofText_iff.mpr hw)]
    constructor
    · intro h
      split at h
      · next he =>
        rcases List.mem_append.mp h with h | h
        · obtain ⟨hi, hm⟩ := List.mem_filter.mp h
          exact .index hw he hi ((hw.accepts_iff n).mp hm)
        · obtain ⟨⟨a, targets⟩, ha, hn⟩ := List.mem_flatMap.mp h
          obtain ⟨ha, hm⟩ := List.mem_filter.mp ha
          exact .target hw he ha ((hw.accepts_iff a).mp hm) hn
      · cases h
    · intro h
      cases h with
      | index _ he hi hm =>
        rw [if_pos he]
        exact List.mem_append_left _ (List.mem_filter.mpr ⟨hi, (hw.accepts_iff n).mpr hm⟩)
      | @target a targets _ he ha hm hn =>
        rw [if_pos he]
        refine List.mem_append_right _ (List.mem_flatMap.mpr ⟨(a, targets), ?_, hn⟩)
        exact List.mem_filter.mpr ⟨ha, (hw.accepts_iff a).mpr hm⟩
      | ofAlias hn => exact absurd hw hn
      | stated hn => exact absurd hw hn
  · rw [if_neg (mt Pattern.isWildcard_ofText_iff.mp hw)]
    cases hf : c.aliases.find? name with
    | some targets =>
      have ha := c.find?_aliases_iff.mp hf
      constructor
      · intro h
        exact .ofAlias hw ha h
      · intro h
        cases h with
        | index hw' => exact absurd hw' hw
        | target hw' => exact absurd hw' hw
        | ofAlias _ ha' hn =>
          obtain rfl := Option.some.inj (hf.symm.trans (c.find?_aliases_iff.mpr ha'))
          exact hn
        | stated _ hn => exact absurd ha (hn targets)
    | none =>
      have ha := c.find?_aliases_eq_none_iff.mp hf
      have hi : (c.indices.contains name || !options.ignoreUnavailable) = true ↔
          name ∈ c.indices.names ∨ options.ignoreUnavailable = false := by
        rw [Bool.or_eq_true, NameSet.contains_iff, Bool.not_eq_true']
      constructor
      · intro h
        dsimp only at h
        split at h
        · next hs =>
          obtain rfl := List.mem_singleton.mp h
          exact .stated hw ha rfl (hi.mp hs)
        · cases h
      · intro h
        cases h with
        | index hw' => exact absurd hw' hw
        | target hw' => exact absurd hw' hw
        | ofAlias _ ha' => exact absurd ha' (ha _)
        | stated _ _ hn hs =>
          subst hn
          exact List.mem_of_mem_head? (by rw [if_pos (hi.mpr hs)]; rfl)

/-! ## What several names refer to -/

/-- Names that stand for all indices, whatever else is among them. -/
def SelectsAll (names : List String) : Prop := names = [] ∨ allIndices ∈ names

theorem selectsAll_iff {names : List String} :
    (names.isEmpty || names.contains allIndices) = true ↔ SelectsAll names := by
  simp [SelectsAll]

theorem pairwise_resolve (names : List String) : (c.resolve e options names).Pairwise (· < ·) := by
  unfold resolve
  split
  · exact c.indices.pairwise_names
  · exact pairwise_distinctNames _

theorem mem_resolve_of_selectsAll {names : List String} {n : String} (h : SelectsAll names) :
    n ∈ c.resolve e options names ↔ n ∈ c.indices.names := by
  rw [resolve, if_pos (selectsAll_iff.mpr h)]

theorem mem_resolve_of_not_selectsAll {names : List String} {n : String}
    (h : ¬SelectsAll names) :
    n ∈ c.resolve e options names ↔ ∃ name ∈ names, c.Refers e options name n := by
  rw [resolve, if_neg (mt selectsAll_iff.mp h), mem_distinctNames_iff, List.mem_flatMap]
  simp only [mem_referredTo_iff]

theorem selectsAll_congr {names names' : List String} (h : ∀ name, name ∈ names ↔ name ∈ names') :
    SelectsAll names ↔ SelectsAll names' := by
  unfold SelectsAll
  rw [h allIndices, List.eq_nil_iff_forall_not_mem, List.eq_nil_iff_forall_not_mem]
  simp only [h]

theorem resolve_congr {names names' : List String} (h : ∀ name, name ∈ names ↔ name ∈ names') :
    c.resolve e options names = c.resolve e options names' := by
  refine names_ext (c.pairwise_resolve e options names) (c.pairwise_resolve e options names')
    fun n => ?_
  by_cases hs : SelectsAll names
  · rw [c.mem_resolve_of_selectsAll e options hs,
      c.mem_resolve_of_selectsAll e options ((selectsAll_congr h).mp hs)]
  · rw [c.mem_resolve_of_not_selectsAll e options hs,
      c.mem_resolve_of_not_selectsAll e options (mt (selectsAll_congr h).mpr hs)]
    simp only [h]

/-- The indices that names refer to, each of them once and in ascending order: all indices, or those
that one of the names refers to. Neither the order of the names nor their repetition counts, nor
whether it is allowed that there are none. -/
theorem resolve_exactly (names : List String) :
    (c.resolve e options names).Pairwise (· < ·) ∧
    (names = [] ∨ allIndices ∈ names →
      ∀ n, n ∈ c.resolve e options names ↔ n ∈ c.indices.names) ∧
    (¬(names = [] ∨ allIndices ∈ names) →
      ∀ n, n ∈ c.resolve e options names ↔ ∃ name ∈ names, c.Refers e options name n) ∧
    (∀ names', (∀ name, name ∈ names ↔ name ∈ names') →
      c.resolve e options names = c.resolve e options names') ∧
    ∀ allowed, c.resolve e { options with allowNoIndices := allowed } names =
      c.resolve e options names := by
  refine ⟨c.pairwise_resolve e options names, fun h n => ?_, fun h n => ?_, fun names' h => ?_,
    fun allowed => rfl⟩
  · exact c.mem_resolve_of_selectsAll e options h
  · exact c.mem_resolve_of_not_selectsAll e options h
  · exact c.resolve_congr e options h

/-- A glob, an alias and an index that is not there: the glob stands for one of two indices, and
the absent index is named. Beside the name for all indices none of them counts. -/
theorem resolve_exactly_mixed :
    let engine := Pattern.Regex.engine
    let c : Cluster :=
      { indices := .ofNames ["movies", "logs-1", "logs-22"]
        aliases := .ofList [("films", .ofNames ["movies", "series"])] }
    let options : IndicesOptions := { ignoreUnavailable := false }
    let names := ["logs-?", "films", "gone"]
    let again := ["gone", "films", "logs-?", "films"]
    ¬(names = [] ∨ allIndices ∈ names) ∧ (∀ name, name ∈ names ↔ name ∈ again) ∧
      allIndices ∈ ["gone", "_all"] ∧
      (∀ n ∈ ["gone", "logs-1", "series"], n ∈ c.resolve engine options names) ∧
      (∀ name ∈ names, ¬c.Refers engine options name "logs-22") ∧
      c.resolve engine options names = c.resolve engine options again ∧
      ∀ n, n ∈ c.resolve engine options ["gone", "_all"] ↔ n ∈ c.indices.names := by
  intro engine c options names again
  have hs : ¬(names = [] ∨ allIndices ∈ names) := by decide
  have ha : ∀ name, name ∈ names ↔ name ∈ again := by
    intro name
    simp only [names, again, List.mem_cons, List.not_mem_nil, or_false]
    tauto
  obtain ⟨-, -, hm, hc, -⟩ := resolve_exactly engine c options names
  have hw : ¬Pattern.IsWild engine "gone" := fun h =>
    absurd (Pattern.isWildcard_ofText_iff.mpr h) (by decide +kernel)
  have hf : ¬Pattern.IsWild engine "films" := fun h =>
    absurd (Pattern.isWildcard_ofText_iff.mpr h) (by decide +kernel)
  have hi : c.aliases.find? "films" = some (.ofNames ["movies", "series"]) := by decide +kernel
  have hg : ∀ body, "logs-?" ≠ "/" ++ body ++ "/" := by
    intro body hb
    have := congrArg (fun s => s.toList.head?) hb
    simp at this
  have hl := Pattern.wildMatches_glob_iff hg (Or.inr (by decide))
  have hp : Pattern.Glob.Covers "logs-?".toList "logs-1".toList := by
    iterate 5 refine .literal (by decide) (by decide) ?_
    exact .any '1' .nil
  refine ⟨hs, ha, by decide, ?_, fun name hn hr => ?_, hc again ha, ?_⟩
  · simp only [List.forall_mem_cons, List.not_mem_nil, false_imp_iff, forall_true_iff, and_true]
    refine ⟨(hm hs _).mpr ⟨"gone", by decide, ?_⟩, (hm hs _).mpr ⟨"logs-?", by decide, ?_⟩,
      (hm hs _).mpr ⟨"films", by decide, ?_⟩⟩
    · exact .stated hw (c.find?_aliases_eq_none_iff.mp (by decide +kernel)) rfl (Or.inr rfl)
    · exact .index hl.1 rfl (by decide +kernel) ((hl.2 _).mpr hp)
    · exact .ofAlias hf (c.find?_aliases_iff.mp hi) (by decide +kernel)
  · exact absurd ((hm hs _).mpr ⟨name, hn, hr⟩) (by decide +kernel)
  · exact (resolve_exactly engine c options ["gone", "_all"]).2.1 (Or.inr (by decide))

/-! ## Names added to a request -/

section Append

variable {p q : List String}

theorem mem_resolve_append_of_all {n : String} (h : allIndices ∈ p ++ q) :
    n ∈ c.resolve e options (p ++ q) ↔
      (n ∈ c.resolve e options p ∨ n ∈ c.resolve e options q) ∧ n ∈ c.indices.names := by
  rw [c.mem_resolve_of_selectsAll e options (Or.inr h)]
  constructor
  · intro hn
    refine ⟨?_, hn⟩
    rcases List.mem_append.mp h with hp | hq
    · exact Or.inl ((c.mem_resolve_of_selectsAll e options (Or.inr hp)).mpr hn)
    · exact Or.inr ((c.mem_resolve_of_selectsAll e options (Or.inr hq)).mpr hn)
  · exact And.right

theorem mem_resolve_append_of_not_all {n : String} (hp : p ≠ []) (hq : q ≠ [])
    (h : allIndices ∉ p ++ q) :
    n ∈ c.resolve e options (p ++ q) ↔
      n ∈ c.resolve e options p ∨ n ∈ c.resolve e options q := by
  rw [List.mem_append, not_or] at h
  have hs : ∀ {names : List String}, names ≠ [] → allIndices ∉ names → ¬SelectsAll names :=
    fun hn ha => not_or.mpr ⟨hn, ha⟩
  rw [c.mem_resolve_of_not_selectsAll e options (hs hp h.1),
    c.mem_resolve_of_not_selectsAll e options (hs hq h.2),
    c.mem_resolve_of_not_selectsAll e options (hs (by simp [hp]) (by simpa using h))]
  simp only [List.mem_append, or_and_right, exists_or]

/-- Names contribute to what they refer to together, each by itself, as long as the name for all
indices is not among them. Where it is, what is left of the union are the indices. So no other name
that is added to a request takes anything away, and the name for all indices takes no index away. -/
theorem resolve_append (hp : p ≠ []) (hq : q ≠ []) :
    (∀ n, n ∈ c.resolve e options (p ++ q) ↔
      (n ∈ c.resolve e options p ∨ n ∈ c.resolve e options q) ∧
        (allIndices ∈ p ++ q → n ∈ c.indices.names)) ∧
    (allIndices ∉ p ++ q → c.resolve e options (p ++ q) =
      distinctNames (c.resolve e options p ++ c.resolve e options q)) ∧
    (allIndices ∉ q → ∀ n ∈ c.resolve e options p, n ∈ c.resolve e options (p ++ q)) := by
  have hm : ∀ n, n ∈ c.resolve e options (p ++ q) ↔
      (n ∈ c.resolve e options p ∨ n ∈ c.resolve e options q) ∧
        (allIndices ∈ p ++ q → n ∈ c.indices.names) := by
    intro n
    by_cases h : allIndices ∈ p ++ q
    · rw [c.mem_resolve_append_of_all e options h]
      simp only [h, true_imp_iff]
    · rw [c.mem_resolve_append_of_not_all e options hp hq h]
      simp only [h, false_imp_iff, and_true]
  refine ⟨hm, fun h => ?_, fun h n hn => ?_⟩
  · refine names_ext (c.pairwise_resolve e options _) (pairwise_distinctNames _) fun n => ?_
    rw [mem_distinctNames_iff, List.mem_append, hm]
    simp only [h, false_imp_iff, and_true]
  · refine (hm n).mpr ⟨Or.inl hn, fun ha => ?_⟩
    have hp : allIndices ∈ p := (List.mem_append.mp ha).resolve_right h
    exact (c.mem_resolve_of_selectsAll e options (Or.inr hp)).mp hn

end Append

/-- A stated index that is not there is to be named, but not beside the name for all indices. -/
theorem resolve_append_of_absent :
    ["nope"] ≠ [] ∧ ["_all"] ≠ [] ∧
      ({ indices := .ofNames ["movies"] } : Cluster).resolve Pattern.Regex.engine
        { ignoreUnavailable := false } ["nope"] = ["nope"] ∧
      "nope" ∉ ({ indices := .ofNames ["movies"] } : Cluster).resolve Pattern.Regex.engine
        { ignoreUnavailable := false } (["nope"] ++ ["_all"]) := by
  refine ⟨by decide, by decide, by decide +kernel, fun h => ?_⟩
  have hi := (((resolve_append _ _ _ (by decide) (by decide)).1 _).mp h).2 (by decide)
  exact absurd hi (by decide +kernel)

/-- So the union of what two lists of names refer to may be more than what they refer to
together. -/
theorem absent_hidden_by_all :
    ({ indices := .ofNames ["movies"] } : Cluster).resolve Pattern.Regex.engine
        { ignoreUnavailable := false } (["nope"] ++ ["_all"]) ≠
      distinctNames
        (({ indices := .ofNames ["movies"] } : Cluster).resolve Pattern.Regex.engine
            { ignoreUnavailable := false } ["nope"] ++
          ({ indices := .ofNames ["movies"] } : Cluster).resolve Pattern.Regex.engine
            { ignoreUnavailable := false } ["_all"]) := by
  decide +kernel

end Cluster

end AuditTrail
