import AuditTrail.Proofs.Text.Split
import AuditTrail.Proofs.Url.Changes
import Mathlib.Data.List.Basic

/-! # Names below a path

A name is put below a path as one more segment, which is read as the name. It has no mark that
ends a segment, and is no dots unless the name is, so that nothing in a name leads to another
path.
-/

namespace AuditTrail.Url

/-! ## Dots -/

theorem toLower_cases (c : Char) :
    c.toLower = c ∨ 0x41 ≤ c.toNat ∧ c.toLower.toNat = c.toNat + 0x20 := by
  by_cases hu : 'A'.val ≤ c.val ∧ c.val ≤ 'Z'.val
  · right
    have hl : c.toLower.val = c.val + 0x20 := congrArg Char.val (dif_pos hu)
    obtain ⟨hA, hZ⟩ := hu
    rw [UInt32.le_iff_toNat_le] at hA hZ
    change 0x41 ≤ c.val.toNat at hA
    change c.val.toNat ≤ 0x5A at hZ
    change 0x41 ≤ c.val.toNat ∧ c.toLower.val.toNat = c.val.toNat + 0x20
    rw [hl, UInt32.toNat_add]
    change 0x41 ≤ c.val.toNat ∧ (c.val.toNat + 0x20) % 4294967296 = c.val.toNat + 0x20
    omega
  · exact Or.inl (dif_neg hu)

theorem eq_of_toLower {c d : Char} (h : c.toLower = d) (hd : d.toNat < 0x61) : c = d := by
  rcases toLower_cases c with hc | ⟨hl, hc⟩
  · rw [← h, hc]
  · rw [h] at hc
    omega

theorem eq_or_eq_of_toLower_e {c : Char} (h : c.toLower = 'e') : c = 'e' ∨ c = 'E' := by
  rcases toLower_cases c with hc | ⟨-, hc⟩
  · exact Or.inl (hc.symm.trans h)
  · right
    have hn : c.toNat = 0x45 := by
      rw [h] at hc
      change 0x65 = c.toNat + 0x20 at hc
      omega
    rw [← Char.ofNat_toNat c, hn]

/-- The ways to write a dot, in lower case. -/
def dotForms : List (List Char) := [['.'], ['%', '2', 'e']]

theorem decode_dot_append {cs : List Char} (h : cs.map Char.toLower ∈ dotForms)
    (rest : List Char) : decode (cs ++ rest) = 0x2E :: decode rest := by
  simp only [dotForms, List.mem_cons, List.not_mem_nil, or_false, List.map_eq_cons_iff,
    List.map_eq_nil_iff] at h
  rcases h with ⟨c, _, rfl, hc, rfl⟩ | ⟨a, _, rfl, ha, b, _, rfl, hb, c, _, rfl, hc, rfl⟩
  · obtain rfl := eq_of_toLower hc (by decide)
    rw [List.singleton_append, decode_cons_of_ne (by decide)]
    rfl
  · obtain rfl := eq_of_toLower ha (by decide)
    obtain rfl := eq_of_toLower hb (by decide)
    rcases eq_or_eq_of_toLower_e hc with rfl | rfl <;> simp [decode, hexValue?]

theorem toList_toLower (s : String) : s.toLower.toList = s.toList.map Char.toLower :=
  String.toList_map

theorem decode_of_isSingleDot {segment : String} (h : isSingleDot segment = true) :
    decode segment.toList = Text.Utf8.encode "." := by
  have hd : segment.toList.map Char.toLower ∈ dotForms := by
    rw [← toList_toLower]
    simp only [isSingleDot, List.contains_iff_mem, List.mem_cons, List.not_mem_nil,
      or_false] at h
    rcases h with h | h <;> rw [h] <;> decide
  rw [← List.append_nil segment.toList, decode_dot_append hd, decode]
  decide +kernel

theorem decode_of_isDoubleDot {segment : String} (h : isDoubleDot segment = true) :
    decode segment.toList = Text.Utf8.encode ".." := by
  have hd : ∃ a ∈ dotForms, ∃ b ∈ dotForms, segment.toList.map Char.toLower = a ++ b := by
    rw [← toList_toLower]
    simp only [isDoubleDot, List.contains_iff_mem, List.mem_cons, List.not_mem_nil,
      or_false] at h
    rcases h with h | h | h | h <;> rw [h] <;> decide
  obtain ⟨a, ha, b, hb, hab⟩ := hd
  obtain ⟨as, bs, hs, rfl, rfl⟩ := List.map_eq_append_iff.mp hab
  rw [hs, decode_dot_append ha, ← List.append_nil bs, decode_dot_append hb, decode]
  decide +kernel

/-! ## Names as segments -/

/-- A name that can be put below a path: it says something, and nothing in it is passed over. -/
structure IsName (name : String) : Prop where
  ne_empty : name ≠ ""
  ne_dot : name ≠ "."
  ne_dots : name ≠ ".."
  kept : ∀ c ∈ name.toList, isTabOrNewline c = false

instance (name : String) : Decidable (IsName name) :=
  decidable_of_iff (name ≠ "" ∧ name ≠ "." ∧ name ≠ ".." ∧
      (name.toList.all fun c => !isTabOrNewline c) = true) (by
    simp only [List.all_eq_true, Bool.not_eq_true']
    constructor
    · rintro ⟨he, hd, hds, hk⟩
      exact ⟨he, hd, hds, hk⟩
    · rintro ⟨he, hd, hds, hk⟩
      exact ⟨he, hd, hds, hk⟩)

/-- A segment that stands for a name. It is read as the name, and it is the whole of a segment to
any reader of its URL: it has none of the marks that end a segment, and is no dots. -/
structure Spells (segment name : String) : Prop where
  decode_eq : decode segment.toList = Text.Utf8.encode name
  uncut : ∀ c ∈ segment.toList, c ∉ ['/', '\\', '?', '#']
  not_dot : isSingleDot segment = false
  not_dots : isDoubleDot segment = false

/-- A segment stands for one name. -/
theorem Spells.unique {segment name name' : String} (h : Spells segment name)
    (h' : Spells segment name') : name = name' :=
  Text.Utf8.encode_injective (h.decode_eq.symm.trans h'.decode_eq)

theorem Spells.ne_empty {segment name : String} (h : Spells segment name) (hn : name ≠ "") :
    segment ≠ "" := by
  rintro rfl
  apply hn
  apply Text.Utf8.encode_injective
  rw [← h.decode_eq]
  decide +kernel

variable {scheme name : String}

/-- What a name is written as below a path. -/
def segmentOf (scheme name : String) : String :=
  String.ofList (encode (codedInSegment (isSpecial scheme)) name.toList)

theorem decode_segmentOf (scheme name : String) :
    decode (segmentOf scheme name).toList = Text.Utf8.encode name := by
  have hs : codedInSegment (isSpecial scheme) '%' = true := by cases isSpecial scheme <;> rfl
  rw [segmentOf, String.toList_ofList, decode_encode_toList hs]

theorem spells_segmentOf (hs : isSpecial scheme = true) (h : IsName name) :
    Spells (segmentOf scheme name) name where
  decode_eq := decode_segmentOf scheme name
  uncut c hc hm := by
    rw [segmentOf, String.toList_ofList, hs] at hc
    simp only [List.mem_cons, List.not_mem_nil, or_false] at hm
    rcases mem_encode hc with hc | ⟨-, hc⟩ <;> rcases hm with rfl | rfl | rfl | rfl <;>
      contradiction
  not_dot := by
    rw [Bool.eq_false_iff]
    intro hd
    apply h.ne_dot
    apply Text.Utf8.encode_injective
    rw [← decode_segmentOf scheme, decode_of_isSingleDot hd]
  not_dots := by
    rw [Bool.eq_false_iff]
    intro hd
    apply h.ne_dots
    apply Text.Utf8.encode_injective
    rw [← decode_segmentOf scheme, decode_of_isDoubleDot hd]

/-- A name becomes one more segment; it takes the place of the segment of an empty path. -/
theorem pushSegment_eq (hs : isSpecial scheme = true) (hf : scheme ≠ "file") (h : IsName name)
    (path : List String) :
    pushSegment scheme path name = (if path = [""] then [] else path) ++ [segmentOf scheme name] := by
  have hk : dropTabsAndNewlines name.toList = name.toList :=
    List.filter_eq_self.mpr fun c hc => by simp [h.kept c hc]
  have hd := spells_segmentOf hs h
  rw [pushSegment, if_neg (by simp [h.ne_dot, h.ne_dots]), hk]
  change addSegment scheme _ (segmentOf scheme name) true = _
  simp [addSegment, hd.not_dot, hd.not_dots, normalSegment, hf]

/-! ## Paths with names below them -/

/-- The segments of a path; a path that is not cut up has none. -/
def Path.parts : Path → List String
  | plain _ => []
  | segments list => list

/-- The segments without an empty one at their end. -/
def withoutEmptyEnd (list : List String) : List String :=
  if list.getLast? = some "" then list.dropLast else list

variable {list : List String}

theorem forall_mem_withoutEmptyEnd (h : ∀ part ∈ list.dropLast, part ≠ "") :
    ∀ part ∈ withoutEmptyEnd list, part ≠ "" := by
  unfold withoutEmptyEnd
  split_ifs with hl
  · exact h
  · rcases list.eq_nil_or_concat' with rfl | ⟨init, last, rfl⟩
    · exact h
    · rw [List.dropLast_concat] at h
      rw [List.getLast?_concat, Option.some.injEq] at hl
      exact List.forall_mem_append.mpr ⟨h, List.forall_mem_singleton.mpr hl⟩

theorem dropEmptyEnd_eq (h : ∀ part ∈ list.dropLast, part ≠ "") :
    (if dropEmptyEnd list = [""] then [] else dropEmptyEnd list) = withoutEmptyEnd list := by
  match list, h with
  | [], _ => rfl
  | [part], _ => simp [dropEmptyEnd, withoutEmptyEnd]
  | part :: next :: rest, h =>
    have hd : dropEmptyEnd (part :: next :: rest) = withoutEmptyEnd (part :: next :: rest) := by
      simp only [dropEmptyEnd, withoutEmptyEnd, beq_iff_eq]
    have hne : withoutEmptyEnd (part :: next :: rest) ≠ [""] := by
      intro he
      exact forall_mem_withoutEmptyEnd h "" (by simp [he]) rfl
    rw [hd, if_neg hne]

variable {u : Url} {a b : String}

/-- Two names go below the segments of a path, in the place of an empty segment at its end. -/
theorem below_pair (hp : u.hasPlainPath = false) (hs : isSpecial u.scheme = true)
    (hf : u.scheme ≠ "file") (h : ∀ part ∈ u.path.parts.dropLast, part ≠ "") (ha : IsName a)
    (hb : IsName b) :
    u.below [a, b] = { u with path := .segments (withoutEmptyEnd u.path.parts ++
      [segmentOf u.scheme a, segmentOf u.scheme b]) } := by
  cases hu : u.path with
  | plain text =>
    rw [hasPlainPath, hu] at hp
    cases hp
  | segments list =>
    rw [hu] at h
    change ∀ part ∈ list.dropLast, part ≠ "" at h
    have hn : withoutEmptyEnd list ++ [segmentOf u.scheme a] ≠ [""] := by
      intro he
      have hm : segmentOf u.scheme a ∈ [""] := he ▸ List.mem_append_right _ List.mem_cons_self
      exact (spells_segmentOf hs ha).ne_empty ha.ne_empty (List.mem_singleton.mp hm)
    rw [below, hu]
    change { u with path := .segments (pushSegment u.scheme (pushSegment u.scheme
      (dropEmptyEnd list) a) b) } = _
    rw [pushSegment_eq hs hf ha, dropEmptyEnd_eq h, pushSegment_eq hs hf hb, if_neg hn,
      List.append_assoc]
    rfl

/-! ## Written paths -/

theorem Path.text_append (list more : List String) :
    (Path.segments (list ++ more)).text = (Path.segments list).text ++ (Path.segments more).text := by
  rw [Path.text, List.map_append, String.join_append]
  rfl

theorem pathText_of_forall (h : ∀ part ∈ list, part ≠ "") :
    ({ u with path := .segments list } : Url).pathText = (Path.segments list).text := by
  unfold pathText
  split
  · next hl =>
    cases hl
    exact absurd rfl (h "" List.mem_cons_self)
  · rfl

theorem splitWhere_path (h : ∀ part ∈ list, '/' ∉ part.toList) :
    Text.splitWhere (· == '/') (Path.segments list).text.toList =
      [] :: list.map String.toList := by
  induction list with
  | nil => rfl
  | cons part rest ih =>
    rw [List.forall_mem_cons] at h
    have ht : (Path.segments (part :: rest)).text.toList =
        '/' :: (part.toList ++ (Path.segments rest).text.toList) := by
      simp [Path.text, String.join_cons]
    have hp : ∀ c ∈ part.toList, (c == '/') = false := by
      intro c hc
      rw [beq_eq_false_iff_ne]
      rintro rfl
      exact h.1 hc
    rw [ht, Text.splitWhere_cons, if_pos (beq_self_eq_true _), Text.splitWhere_append_of_forall hp (ih h.2),
      List.append_nil, List.map_cons]

theorem segments_injective {list' : List String} (h : ∀ part ∈ list, '/' ∉ part.toList)
    (h' : ∀ part ∈ list', '/' ∉ part.toList)
    (ht : (Path.segments list).text = (Path.segments list').text) : list = list' := by
  have hs := splitWhere_path h
  rw [ht, splitWhere_path h'] at hs
  exact (List.map_injective_iff.mpr (fun _ _ => String.toList_inj.mp) (List.cons.inj hs).2).symm

/-- A written URL tells the path. -/
theorem pathText_eq_of_text_eq {path path' : Path}
    (h : ({ u with path } : Url).text = ({ u with path := path' } : Url).text) :
    ({ u with path } : Url).pathText = ({ u with path := path' } : Url).pathText := by
  rw [text, text, ← String.toList_inj] at h
  simp only [String.toList_append, List.append_cancel_right_eq, List.append_cancel_left_eq] at h
  exact String.toList_inj.mp h

theorem eq_of_text_below_eq {more more' : List String} (h : ∀ part ∈ list ++ more, part ≠ "")
    (h' : ∀ part ∈ list ++ more', part ≠ "") (hs : ∀ part ∈ more, '/' ∉ part.toList)
    (hs' : ∀ part ∈ more', '/' ∉ part.toList)
    (ht : ({ u with path := .segments (list ++ more) } : Url).text =
      ({ u with path := .segments (list ++ more') } : Url).text) : more = more' := by
  apply segments_injective hs hs'
  have hp := pathText_eq_of_text_eq ht
  rw [pathText_of_forall h, pathText_of_forall h', Path.text_append, Path.text_append,
    ← String.toList_inj, String.toList_append, String.toList_append,
    List.append_cancel_left_eq] at hp
  exact String.toList_inj.mp hp

end AuditTrail.Url
