import AuditTrail.Config.Reader
import AuditTrail.Proofs.Json.Reading
import AuditTrail.Proofs.Json.RoundTrip

/-! # Configurations written and read back

A configuration is written with all its settings under their names, so that it is read back
whatever the defaults are. What is read fits the types of the settings again, whichever form it
was read from, and so it is written and read back as well.
-/

namespace AuditTrail.Config

open Json (Number Tree Value)

/-! ## Settings by name and by position -/

theorem nodup_names : (settings.map Setting.name).Nodup := by
  decide

theorem find?_name {ss : List Setting} (hn : (ss.map Setting.name).Nodup) {s : Setting}
    (hs : s ∈ ss) : ss.find? (·.name == s.name) = some s := by
  induction ss with
  | nil => cases hs
  | cons s' ss ih =>
    rw [List.map_cons, List.nodup_cons] at hn
    rcases List.mem_cons.mp hs with rfl | hs
    · simp
    · have hne : s'.name ≠ s.name := by
        intro he
        exact hn.1 (he ▸ List.mem_map_of_mem hs)
      rw [List.find?_cons_of_neg (by simpa using hne), ih hn.2 hs]

theorem readMembers?_eq_readItems? {ss : List Setting} (hss : ss ⊆ settings)
    (hn : (ss.map Setting.name).Nodup) {seen : List String} (hs : ∀ s ∈ ss, s.name ∉ seen)
    (c : Config) {ts : List Tree} (hl : ts.length ≤ ss.length) :
    readMembers? seen c (List.zipWith (fun s t => (some s.name, t)) ss ts) =
      readItems? c ss ts := by
  induction ss generalizing seen c ts with
  | nil =>
    obtain rfl := List.length_eq_zero_iff.mp (Nat.le_zero.mp hl)
    rfl
  | cons s ss ih =>
    cases ts with
    | nil => rfl
    | cons t ts =>
      rw [List.map_cons, List.nodup_cons] at hn
      rw [List.cons_subset] at hss
      rw [List.forall_mem_cons] at hs
      have hf := find?_name nodup_names hss.1
      have hseen : ∀ s' ∈ ss, s'.name ∉ s.name :: seen := by
        intro s' hs' hm
        rcases List.mem_cons.mp hm with he | hm
        · exact hn.1 (he ▸ List.mem_map_of_mem hs')
        · exact hs.2 s' hs' hm
      simp only [List.zipWith_cons_cons, readMembers?, readItems?, Option.bind_eq_bind,
        Option.bind_some, hf, List.contains_iff_mem, hs.1, if_false]
      apply Option.bind_congr
      intro d _
      exact ih hss.2 hn.2 hseen d (by simpa using hl)

/-! ## Settings that are written -/

/-- The settings lie within the ranges of their types: whole numbers of 64 bits, and values whose
objects have their members in order. -/
structure Fits (c : Config) : Prop where
  threadpoolSize : -Int.pow 2 63 ≤ c.threadpoolSize ∧ c.threadpoolSize < Int.pow 2 63
  threadpoolMaxQueueLen :
    -Int.pow 2 63 ≤ c.threadpoolMaxQueueLen ∧ c.threadpoolMaxQueueLen < Int.pow 2 63
  shutdownGraceSeconds : c.shutdownGraceSeconds < Nat.pow 2 64
  sink : ∀ e ∈ c.sink.entries, e.2.Ordered ∧ e.2.AllNumbers Number.Fits

/-- The settings of the sink have no doubles. -/
def HasWholeSink (c : Config) : Prop := ∀ e ∈ c.sink.entries, e.2.AllNumbers Number.IsWhole

theorem optionalText?_tree (t : Option String) :
    optionalText? (t.elim .null .string : Value).tree = some t := by
  cases t <;> rfl

theorem texts?_tree (items : List String) : texts? (Value.strings items).tree = some items := by
  rw [Value.strings, Value.tree, texts?]
  induction items with
  | nil => rfl
  | cons s items ih => simp [Value.itemTrees, Value.tree, text?, ih]

theorem int?_tree {i : Int} (h : (Number.int i).IsInteger) :
    int? (Value.number (.int i)).tree = some i := by
  rw [Value.tree, Number.numeral, int?, Json.Numeral.number?_ofInt h]

theorem isInteger_of_signed {i : Int} (h : -Int.pow 2 63 ≤ i ∧ i < Int.pow 2 63) :
    (Number.int i).IsInteger := by
  have hp : Int.pow 2 63 = (Nat.pow 2 63 : Int) := rfl
  have hq : Nat.pow 2 64 = 2 * Nat.pow 2 63 := rfl
  constructor <;> omega

theorem isInteger_of_natural {n : Nat} (h : n < Nat.pow 2 64) : (Number.int n).IsInteger := by
  constructor <;> omega

theorem signed?_tree {i : Int} (h : -Int.pow 2 63 ≤ i ∧ i < Int.pow 2 63) :
    signed? (Value.number (.int i)).tree = some i := by
  rw [signed?, int?_tree (isInteger_of_signed h)]
  exact if_pos (by rw [Bool.and_eq_true, decide_eq_true_eq, decide_eq_true_eq]; exact h)

theorem natural?_tree {n : Nat} (h : n < Nat.pow 2 64) :
    natural? (Value.number (.int n)).tree = some n := by
  have hn : (0 : Int) ≤ n := Int.natCast_nonneg n
  rw [natural?, int?_tree (isInteger_of_natural h), Option.filter, if_pos (decide_eq_true hn)]
  rfl

theorem table?_tree {t : Table Value} (ho : ∀ e ∈ t.entries, e.2.Ordered)
    (hi : ∀ e ∈ t.entries, e.2.IsIntegral)
    (hd : ∀ e ∈ t.entries, e.2.depth ≤ Value.depthLimit - 2) :
    table? (Value.ofTable t).tree = some t := by
  have hm := Value.members?_memberTrees t.entries [] (Value.membersIntegral_iff.mpr hi)
    (Value.membersDepth_le_iff.mpr hd)
  rw [Value.normalMembers_of_ordered (Value.orderedMembers_of_forall ho)] at hm
  rw [Value.ofTable, Value.tree, table?, hm, Option.map_some, Option.some.injEq]
  change Table.ofList (Entries.ofList t.entries) = t
  rw [Entries.ofList_of_ascending t.ascending, Table.ofList_entries]

/-! ## Settings that are read -/

/-- What is true of a configuration that was read from a document. -/
structure IsRead (c : Config) : Prop extends c.Fits where
  depth_le : ∀ e ∈ c.sink.entries, e.2.depth ≤ Value.depthLimit - 2

theorem bounds_of_signed? {t : Tree} {i : Int} (h : signed? t = some i) :
    -Int.pow 2 63 ≤ i ∧ i < Int.pow 2 63 := by
  have hb := (Option.filter_eq_some_iff.mp h).2
  rwa [Bool.and_eq_true, decide_eq_true_eq, decide_eq_true_eq] at hb

theorem fits_of_int? {t : Tree} {i : Int} (h : int? t = some i) : (Number.int i).Fits := by
  cases t with
  | number n =>
    rw [int?] at h
    split at h
    · next hn =>
      obtain rfl := Option.some.inj h
      exact Json.Numeral.fits_of_number? hn
    · cases h
  | _ => cases h

theorem bound_of_natural? {t : Tree} {n : Nat} (h : natural? t = some n) : n < Nat.pow 2 64 := by
  obtain ⟨i, hi, rfl⟩ := Option.map_eq_some_iff.mp h
  have hb := (fits_of_int? (Option.filter_eq_some_iff.mp hi).1).2
  have hp : 0 < Nat.pow 2 64 := by decide
  omega

theorem isRead_of_table? {t : Tree} {v : Table Value} (h : table? t = some v) :
    ∀ e ∈ v.entries, e.2.IsRead (Value.depthLimit - 2) := by
  cases t with
  | object members =>
    obtain ⟨ms, hm, rfl⟩ := Option.map_eq_some_iff.mp h
    obtain ⟨-, hr⟩ := Value.isRead_of_members? hm List.Pairwise.nil (by simp)
    exact fun e he => hr e (Entries.mem_of_mem_ofList he)
  | _ => cases h

theorem isRead_default : ({ sink := .empty } : Config).IsRead where
  threadpoolSize := by decide
  threadpoolMaxQueueLen := by decide
  shutdownGraceSeconds := by decide
  sink := fun _ h => nomatch h
  depth_le := fun _ h => nomatch h

theorem IsRead.congr {c d : Config} (hc : c.IsRead) (hs : d.threadpoolSize = c.threadpoolSize)
    (hq : d.threadpoolMaxQueueLen = c.threadpoolMaxQueueLen)
    (hg : d.shutdownGraceSeconds = c.shutdownGraceSeconds) (hk : d.sink = c.sink) : d.IsRead where
  threadpoolSize := hs ▸ hc.threadpoolSize
  threadpoolMaxQueueLen := hq ▸ hc.threadpoolMaxQueueLen
  shutdownGraceSeconds := hg ▸ hc.shutdownGraceSeconds
  sink := hk ▸ hc.sink
  depth_le := hk ▸ hc.depth_le

theorem isRead_of_map {α : Type} {v? : Option α} {store : α → Config} {d : Config}
    (hd : v?.map store = some d) (h : ∀ v, v? = some v → (store v).IsRead) : d.IsRead := by
  obtain ⟨v, hv, rfl⟩ := Option.map_eq_some_iff.mp hd
  exact h v hv

theorem isRead_of_read? {c : Config} (hc : c.IsRead) (t : Tree) :
    ∀ s ∈ settings, ∀ d, s.read? t c = some d → d.IsRead := by
  simp only [settings, List.forall_mem_cons, List.not_mem_nil, false_implies, implies_true,
    and_true]
  refine ⟨?type, ?rest, ?transport, ?bodies, ?bulk, ?indices, ?categories, ?users, ?requests, ?size,
    ?queue, ?grace, ?index, ?sink⟩
  all_goals intro d hd
  case size =>
    exact isRead_of_map hd fun v hv => { hc with threadpoolSize := bounds_of_signed? hv }
  case queue =>
    exact isRead_of_map hd fun v hv => { hc with threadpoolMaxQueueLen := bounds_of_signed? hv }
  case grace =>
    exact isRead_of_map hd fun v hv => { hc with shutdownGraceSeconds := bound_of_natural? hv }
  case sink =>
    refine isRead_of_map hd fun v hv => ?_
    have hr := isRead_of_table? hv
    exact { hc with
      sink := fun e he => ⟨(hr e he).ordered, (hr e he).fits⟩
      depth_le := fun e he => (hr e he).depth_le }
  all_goals exact isRead_of_map hd fun _ _ => hc.congr rfl rfl rfl rfl

theorem isRead_of_readMembers? {seen : List String} {c d : Config}
    {ms : List (Option String × Tree)} (h : readMembers? seen c ms = some d) (hc : c.IsRead) :
    d.IsRead := by
  induction ms generalizing seen c with
  | nil =>
    obtain rfl := Option.some.inj h
    exact hc
  | cons m ms ih =>
    obtain ⟨name, t⟩ := m
    simp only [readMembers?, Option.bind_eq_bind, Option.bind_eq_some_iff] at h
    obtain ⟨key, -, h⟩ := h
    split at h
    · exact ih h hc
    · next s hs =>
      split at h
      · cases h
      · obtain ⟨e, he, h⟩ := Option.bind_eq_some_iff.mp h
        exact ih h (isRead_of_read? hc t s (List.mem_of_find?_eq_some hs) e he)

theorem isRead_of_readItems? {ss : List Setting} (hss : ss ⊆ settings) {c d : Config}
    {ts : List Tree} (h : readItems? c ss ts = some d) (hc : c.IsRead) : d.IsRead := by
  induction ss generalizing c ts with
  | nil =>
    cases ts with
    | nil =>
      obtain rfl := Option.some.inj h
      exact hc
    | cons t ts => cases h
  | cons s ss ih =>
    cases ts with
    | nil =>
      obtain rfl := Option.some.inj h
      exact hc
    | cons t ts =>
      rw [List.cons_subset] at hss
      obtain ⟨e, he, h⟩ := Option.bind_eq_some_iff.mp h
      exact ih hss.2 h (isRead_of_read? hc t s hss.1 e he)

theorem isRead_of_ofTree? {t : Tree} {c : Config} (h : ofTree? t = some c) : c.IsRead := by
  cases t with
  | object members => exact isRead_of_readMembers? h isRead_default
  | array items => exact isRead_of_readItems? (List.Subset.refl _) h isRead_default
  | _ => cases h

/-- A text is loaded as the configuration that it states, if that passes the check. -/
theorem ofText_eq_ok_iff {s : String} {c : Config} :
    ofText s = .ok c ↔ ofChars? s.toList = some c ∧ c.isValid = true := by
  unfold ofText isValid
  cases ofChars? s.toList with
  | none => simp
  | some d =>
    simp only [Option.some.injEq]
    constructor
    · intro h
      cases hd : d.check with
      | error e => rw [hd] at h; cases h
      | ok u =>
        rw [hd] at h
        obtain rfl : d = c := Except.ok.inj h
        simp [hd]
    · rintro ⟨rfl, h⟩
      cases hd : d.check with
      | error e => simp [hd] at h
      | ok u => rfl

/-! ## Round trip -/

variable {c : Config}

theorem readItems?_members (hr : c.IsRead) (hw : c.HasWholeSink) (d : Config) :
    readItems? d settings (c.members.map fun m => m.2.tree) = some c := by
  have ho : ∀ e ∈ c.sink.entries, e.2.Ordered := fun e he => (hr.sink e he).1
  have hi : ∀ e ∈ c.sink.entries, e.2.IsIntegral := fun e he =>
    Value.isIntegral_of (hw e he) (hr.sink e he).2
  have ht := table?_tree ho hi hr.depth_le
  have hs := signed?_tree hr.threadpoolSize
  have hq := signed?_tree hr.threadpoolMaxQueueLen
  have hg := natural?_tree hr.shutdownGraceSeconds
  simp only [members, List.map_cons, List.map_nil, settings, readItems?, Option.bind_eq_bind,
    Option.bind_some, Option.map_some, optionalText?_tree, texts?_tree, ht, hs, hq, hg]
  rfl

theorem isIntegral_members (hf : c.Fits) (hw : c.HasWholeSink) :
    (Value.object c.members).IsIntegral := by
  have hi : ∀ e ∈ c.sink.entries, e.2.IsIntegral := fun e he =>
    Value.isIntegral_of (hw e he) (hf.sink e he).2
  have hm : ∀ m ∈ c.members, m.2.IsIntegral := by
    simp only [members, List.forall_mem_cons, List.not_mem_nil, false_implies, implies_true,
      and_true]
    refine ⟨?type, trivial, trivial, trivial, trivial, trivial, Value.isIntegral_strings _,
      Value.isIntegral_strings _, Value.isIntegral_strings _, ?size, ?queue, ?grace, trivial,
      Value.membersIntegral_iff.mpr hi⟩
    case type => cases c.sinkType <;> trivial
    case size => exact isInteger_of_signed hf.threadpoolSize
    case queue => exact isInteger_of_signed hf.threadpoolMaxQueueLen
    case grace => exact isInteger_of_natural hf.shutdownGraceSeconds
  exact Value.membersIntegral_iff.mpr hm

theorem ofText_json_of_isRead (hv : c.isValid = true) (hr : c.IsRead) (hw : c.HasWholeSink) :
    ofText c.json = .ok c := by
  have hm : Value.memberTrees c.members =
      List.zipWith (fun s t => (some s.name, t)) settings (c.members.map fun m => m.2.tree) := rfl
  have hn : ∀ s ∈ settings, s.name ∉ ([] : List String) := fun _ _ => List.not_mem_nil
  have hd : readMembers? [] { sink := .empty } (Value.memberTrees c.members) = some c := by
    rw [hm, readMembers?_eq_readItems? (List.Subset.refl _) nodup_names hn _ (Nat.le_refl _),
      readItems?_members hr hw]
  rw [ofText_eq_ok_iff, ofChars?, json, Value.treeOfText?_compact (isIntegral_members hr.toFits hw),
    Option.bind_some, Value.tree, ofTree?, hd]
  exact ⟨rfl, hv⟩

/-- A configuration that is usable is loaded from its own text, as long as it has no doubles and
nests no deeper than readers take; so the filter and the dispatcher are set as before. Every text
that is loaded, an object as well as an array, gives a configuration of which this is true. -/
theorem ofText_json :
    (∀ c : Config, c.isValid = true → c.Fits → c.HasWholeSink →
      (Value.object c.members).depth ≤ Value.depthLimit →
      ofText c.json = .ok c) ∧
    ∀ (s : String) (c : Config), ofText s = .ok c → c.HasWholeSink → ofText c.json = .ok c := by
  constructor
  · intro c hv hf hw hd
    have hm := Value.membersDepth_le_iff.mp (Nat.le_of_succ_le_succ hd)
      ("sink", .ofTable c.sink) (by simp [members])
    have he := Value.membersDepth_le_iff.mp (Nat.le_of_succ_le_succ hm)
    exact ofText_json_of_isRead hv { hf with depth_le := he } hw
  · intro s c hs hw
    obtain ⟨hc, hv⟩ := ofText_eq_ok_iff.mp hs
    obtain ⟨t, -, ht⟩ := Option.bind_eq_some_iff.mp hc
    exact ofText_json_of_isRead hv (isRead_of_ofTree? ht) hw

/-- Bounds of all ranges, and text that needs escapes; then an array that leaves most settings to
their defaults. -/
theorem ofText_json_of_bounds :
    let numbers : Value := .array [.null, .number (.int (-9223372036854775808)),
      .number (.int 18446744073709551615)]
    let c : Config :=
      { sinkType := some "debug"
        disabledCategories := ["\n\""]
        ignoreUsers := []
        threadpoolSize := -9223372036854775808
        threadpoolMaxQueueLen := 9223372036854775807
        shutdownGraceSeconds := 18446744073709551615
        configIndex := " é"
        sink := Table.empty.insert "x" (.object [("y", numbers)]) }
    let d : Config := { sinkType := some "debug", enableTransport := false, sink := .empty }
    c.isValid = true ∧ c.Fits ∧ c.HasWholeSink ∧
      (Value.object c.members).depth ≤ Value.depthLimit ∧ ofText c.json = .ok c ∧
      ofText "[\"debug\", true, false]" = .ok d ∧ d.HasWholeSink ∧ ofText d.json = .ok d := by
  intro numbers c d
  have he : c.sink.entries = [("x", .object [("y", numbers)])] := rfl
  have hf : c.Fits := by
    refine ⟨by decide, by decide, by decide, ?_⟩
    rw [he, List.forall_mem_singleton]
    refine ⟨?_, ⟨trivial, ⟨by decide, by decide⟩, ⟨by decide, by decide⟩, trivial⟩, trivial⟩
    exact .object (List.pairwise_singleton _ _)
      (.cons (.array (.cons .null (.cons (.number _) (.cons (.number _) .nil)))) .nil)
  have hw : c.HasWholeSink := by
    unfold HasWholeSink
    rw [he, List.forall_mem_singleton]
    exact ⟨⟨trivial, trivial, trivial, trivial⟩, trivial⟩
  have hv : c.isValid = true := by decide +kernel
  have hd : (Value.object c.members).depth ≤ Value.depthLimit := by decide +kernel
  have hs : ofText "[\"debug\", true, false]" = .ok d := by
    rw [ofText_eq_ok_iff]
    decide +kernel
  have hdw : d.HasWholeSink := fun _ h => nomatch h
  exact ⟨hv, hf, hw, hd, ofText_json.1 c hv hf hw hd, hs, hdw, ofText_json.2 _ d hs hdw⟩

end AuditTrail.Config
