import AuditTrail.Pattern.Basic
import AuditTrail.Proofs.Pattern.Regex.Matching
import AuditTrail.Proofs.Pattern.Regex.Progress

/-! # Globs cut their candidates

The expression of a glob reads back as one item for each character of it between anchors, whatever
these characters mean elsewhere. So a glob accepts exactly the candidates that can be cut into
pieces for its characters, and among them the glob itself.
-/

namespace AuditTrail.Pattern

namespace Glob

open Regex (Reading Item Flags)

/-- What a character of a glob means as an expression. -/
def meaning : Char → Regex
  | '*' => .times (.chars .anything) 0 none
  | '?' => .chars .anything
  | c => .chars (.one c)

/-- The item that a piece of the expression of a glob is read as. -/
def item (c : Char) : Item := ⟨some (meaning c), if c = '*' then 1 else 0⟩

/-! ## Reading the expression back -/

/-- The flags within the expression of a glob. -/
def flags : Flags := { dotAll := true }

theorem literal?_flags (c : Char) : flags.literal? c false = some (.chars (.one c)) := rfl

theorem dot?_flags : flags.dot? = some (.chars .anything) := rfl

/-- What has been read once the items of a glob are added. -/
def after (g : Glob) (r : Reading) : Reading :=
  { r with group := { r.group with items := (g.map item).reverse ++ r.group.items } }

theorem after_cons (c : Char) (g : Glob) (r : Reading) :
    after (c :: g) r = after g (after [c] r) := by
  simp [after]

section

variable {r s : Reading} {c : Char} {rest : List Char}

theorem readEscape?_of_special (f : Flags) (hc : specials.contains c = true) :
    f.readEscape? (c :: rest) = some (.literal c false, rest) := by
  simp only [specials, List.contains_cons, List.contains_nil, Bool.or_false, Bool.or_eq_true,
    beq_iff_eq] at hc
  rcases hc with (rfl | rfl | rfl | rfl | rfl | rfl | rfl | rfl | rfl | rfl | rfl | rfl | rfl |
    rfl | rfl | rfl | rfl | rfl) <;> rfl

theorem step?_escape (hf : r.flags = flags) (hc : c ≠ '*' ∧ c ≠ '?') :
    r.step? (escape c ++ rest) = some (after [c] r, rest) := by
  have ha : after [c] r = r.add (.chars (.one c)) := by
    simp [after, item, meaning, hc, Reading.add, Regex.OpenGroup.add]
  unfold escape
  split
  · next hs =>
    simp [Reading.step?, Flags.readSingle?, readEscape?_of_special _ hs, hf, Flags.atom?,
      literal?_flags, ha]
  · next hs =>
    simp only [specials, List.contains_cons, List.contains_nil, Bool.or_false, Bool.or_eq_true,
      beq_iff_eq, not_or] at hs
    simp [Reading.step?, Flags.readSingle?, hs, hf, literal?_flags, ha]

theorem step?_point (hf : r.flags = flags) :
    r.step? ('.' :: rest) = some (r.add (.chars .anything), rest) := by
  simp [Reading.step?, Flags.readSingle?, hf, dot?_flags]

theorem dropLazy_of_head? (h : rest.head? ≠ some '?') : Regex.dropLazy rest = rest := by
  unfold Regex.dropLazy
  split
  · exact absurd rfl h
  · rfl

theorem reads_piece (hf : r.flags = flags) (hr : rest.head? ≠ some '?')
    (h : Reading.Reads (after [c] r) rest s) : Reading.Reads r (piece c ++ rest) s := by
  have hv : r.flags.verbose = false := by
    rw [hf]
    rfl
  by_cases hs : c = '*'
  · subst hs
    refine .step_plain hv (step?_point hf) (.step_plain hv ?_ h)
    exact congrArg some (Prod.ext rfl (dropLazy_of_head? hr))
  · by_cases hq : c = '?'
    · subst hq
      exact .step_plain hv (step?_point hf) h
    · refine .step_plain hv ?_ h
      simpa [piece, hs, hq] using step?_escape hf ⟨hs, hq⟩

theorem head?_piece (c : Char) (rest : List Char) : (piece c ++ rest).head? ≠ some '?' := by
  unfold piece escape
  split
  · simp
  · simp
  · split <;> simp_all

theorem reads_pieces (g : Glob) (hf : r.flags = flags) (hr : rest.head? ≠ some '?')
    (h : Reading.Reads (after g r) rest s) : Reading.Reads r (g.flatMap piece ++ rest) s := by
  induction g generalizing r with
  | nil => exact h
  | cons c g ih =>
    rw [List.flatMap_cons, List.append_assoc]
    refine reads_piece hf ?_ (ih hf (after_cons c g r ▸ h))
    cases g with
    | nil => exact hr
    | cons d g =>
      rw [List.flatMap_cons, List.append_assoc]
      exact head?_piece d _

end

/-- The expression that a glob is matched by. -/
def regex (g : Glob) : Regex := Regex.seqs (.look .start :: (g.map meaning ++ [.look .finish]))

theorem foldl_max_le {depths : List Nat} {m n : Nat} (hm : m ≤ n) (h : ∀ d ∈ depths, d ≤ n) :
    depths.foldl max m ≤ n := by
  induction depths generalizing m with
  | nil => exact hm
  | cons d depths ih =>
    exact ih (max_le hm (h d List.mem_cons_self)) fun d' hd => h d' (List.mem_cons_of_mem d hd)

theorem nesting_le {depths : List Nat} {n : Nat} (h : ∀ d ∈ depths, d ≤ n) :
    Regex.nesting depths ≤ n + 1 := by
  unfold Regex.nesting
  split
  · exact Nat.zero_le _
  · next d => exact (h d (List.mem_singleton_self d)).trans (Nat.le_succ n)
  · exact Nat.succ_le_succ (foldl_max_le (Nat.zero_le n) h)

theorem depth_le {g : Regex.OpenGroup} {n : Nat} (ha : g.alternatives = [])
    (h : ∀ item ∈ g.items, item.depth ≤ n) : g.depth ≤ n + 1 := by
  rw [Regex.OpenGroup.depth, ha]
  have hn : Regex.nesting (g.items.map Item.depth) ≤ n + 1 := by
    refine nesting_le fun d hd => ?_
    obtain ⟨item, hi, rfl⟩ := List.mem_map.mp hd
    exact h item hi
  exact hn

theorem depth_item_le (c : Char) : (item c).depth ≤ 1 := by
  unfold item
  split
  · exact Nat.le_refl 1
  · exact Nat.zero_le 1

theorem ofTextWithin?_expression (g : Glob) {levels : Nat} (hl : 2 ≤ levels) :
    Regex.ofTextWithin? levels (expression g) = some (regex g) := by
  rw [Regex.ofTextWithin?_eq_some_iff]
  let start : Reading := { flags, group := { items := [⟨some (.look .start), 0⟩, ⟨none, 0⟩] } }
  refine ⟨(after g start).add (.look .finish), ?_, ?_⟩
  · have hs : Reading.step? {} (expression g) =
        some ({ flags, group := { items := [⟨none, 0⟩] } }, '^' :: (g.flatMap piece ++ ['$'])) := rfl
    have hc : Reading.step? { flags, group := { items := [⟨none, 0⟩] } }
        ('^' :: (g.flatMap piece ++ ['$'])) = some (start, g.flatMap piece ++ ['$']) := rfl
    refine .step_plain rfl hs (.step_plain rfl hc (reads_pieces g rfl (by decide) ?_))
    exact .step_plain rfl rfl (.done rfl)
  · have hd : Regex.OpenGroup.depth ((after g start).add (.look .finish)).group ≤ levels := by
      refine le_trans (depth_le rfl fun it hi => ?_) hl
      simp only [Reading.add, Regex.OpenGroup.add, after, start, List.mem_cons, List.mem_append,
        List.mem_reverse, List.mem_map, List.not_mem_nil, or_false] at hi
      rcases hi with rfl | ⟨c, -, rfl⟩ | rfl | rfl
      · exact Nat.zero_le 1
      · exact depth_item_le c
      · exact Nat.zero_le 1
      · exact Nat.zero_le 1
    have hc : Regex.OpenGroup.close ((after g start).add (.look .finish)).group = regex g := by
      simp [Regex.OpenGroup.close, Regex.OpenGroup.alternative, Reading.add, Regex.OpenGroup.add,
        after, start, regex, item, List.filterMap_map, Function.comp_def]
    rw [Reading.closed?, hc, if_pos]
    rw [Bool.and_eq_true, decide_eq_true_eq]
    exact ⟨rfl, hd⟩

/-! ## Ways through a glob -/

theorem covers_run_iff {g : Glob} {cs : List Char} :
    Covers ('*' :: g) cs ↔ ∃ piece rest, cs = piece ++ rest ∧ Covers g rest := by
  constructor
  · intro h
    cases h with
    | run piece hr => exact ⟨piece, _, rfl, hr⟩
    | literal hs => exact absurd rfl hs
  · rintro ⟨piece, rest, rfl, hr⟩
    exact .run piece hr

theorem covers_any_iff {g : Glob} {cs : List Char} :
    Covers ('?' :: g) cs ↔ ∃ c rest, cs = c :: rest ∧ Covers g rest := by
  constructor
  · intro h
    cases h with
    | any c hr => exact ⟨c, _, rfl, hr⟩
    | literal _ hq => exact absurd rfl hq
  · rintro ⟨c, rest, rfl, hr⟩
    exact .any c hr

theorem covers_literal_iff {g : Glob} {c : Char} {cs : List Char} (hs : c ≠ '*') (hq : c ≠ '?') :
    Covers (c :: g) cs ↔ ∃ rest, cs = c :: rest ∧ Covers g rest := by
  constructor
  · intro h
    cases h with
    | run => exact absurd rfl hs
    | any => exact absurd rfl hq
    | literal _ _ hr => exact ⟨_, rfl, hr⟩
  · rintro ⟨rest, rfl, hr⟩
    exact .literal hs hq hr

section

variable {text : List Char} {i k : Nat}

theorem contains_one_iff {c x : Char} : (Text.CharClass.one c).contains x = true ↔ x = c := by
  simp only [Text.CharClass.one, Text.CharClass.contains, Bool.and_eq_true, decide_eq_true_eq]
  constructor
  · rintro ⟨hl, hr⟩
    exact Char.le_antisymm hr hl
  · rintro rfl
    exact ⟨Char.le_refl x, Char.le_refl x⟩

theorem leads_run_iff (hi : i ≤ text.length) :
    Regex.Leads text (meaning '*') i k ↔ i ≤ k ∧ k ≤ text.length := by
  constructor
  · intro h
    refine ⟨h.le, ?_⟩
    rcases h.le_length with rfl | hk
    · exact hi
    · exact hk
  · rintro ⟨hik, hk⟩
    obtain ⟨n, rfl⟩ := Nat.exists_eq_add_of_le hik
    clear hik hi
    induction n generalizing i with
    | zero => exact .stop i
    | succ n ih =>
      have hi : i < text.length := by omega
      rw [Nat.add_comm n, ← Nat.add_assoc] at hk ⊢
      exact .again (by simp) (.chars (List.getElem?_eq_getElem hi) rfl) (ih hk)

theorem drop_eq_cons_iff {x : Char} {rest : List Char} :
    text.drop i = x :: rest ↔ text[i]? = some x ∧ text.drop (i + 1) = rest := by
  constructor
  · intro h
    have hx := congrArg List.head? h
    have hr := congrArg List.tail h
    rw [List.head?_drop] at hx
    rw [List.tail_drop] at hr
    exact ⟨hx, hr⟩
  · rintro ⟨hx, rfl⟩
    obtain ⟨hi, rfl⟩ := List.getElem?_eq_some_iff.mp hx
    exact List.drop_eq_getElem_cons hi

/-- Ways from a place to the end cut what follows the place. -/
theorem leads_iff_covers (g : Glob) (hi : i ≤ text.length) :
    Regex.Leads text (Regex.seqs (g.map meaning)) i text.length ↔ Covers g (text.drop i) := by
  induction g generalizing i with
  | nil =>
    rw [List.map_nil, Regex.leads_seqs_nil_iff]
    constructor
    · rintro rfl
      rw [List.drop_length]
      exact .nil
    · intro h
      generalize hd : text.drop i = rest at h
      cases h
      exact Nat.le_antisymm hi (List.drop_eq_nil_iff.mp hd)
  | cons c g ih =>
    rw [List.map_cons, Regex.leads_seqs_cons_iff]
    by_cases hs : c = '*'
    · subst hs
      rw [covers_run_iff]
      constructor
      · rintro ⟨k, hl, hr⟩
        obtain ⟨hik, hk⟩ := (leads_run_iff hi).mp hl
        refine ⟨(text.drop i).take (k - i), text.drop k, ?_, (ih hk).mp hr⟩
        have hd := (List.take_append_drop (k - i) (text.drop i)).symm
        rwa [List.drop_drop, Nat.add_sub_cancel' hik] at hd
      · rintro ⟨piece, rest, hd, hr⟩
        have hl := congrArg List.length hd
        rw [List.length_drop, List.length_append] at hl
        have hd := congrArg (List.drop piece.length) hd
        rw [List.drop_drop, List.drop_left] at hd
        refine ⟨i + piece.length, (leads_run_iff hi).mpr ⟨by omega, by omega⟩, ?_⟩
        exact (ih (by omega)).mpr (hd ▸ hr)
    · by_cases hq : c = '?'
      · subst hq
        simp only [covers_any_iff, drop_eq_cons_iff]
        constructor
        · rintro ⟨k, hl, hr⟩
          cases hl with
          | chars hx _ => exact ⟨_, _, ⟨hx, rfl⟩, (ih (List.getElem?_eq_some_iff.mp hx).1).mp hr⟩
        · rintro ⟨x, rest, ⟨hx, rfl⟩, hr⟩
          have hi := (List.getElem?_eq_some_iff.mp hx).1
          exact ⟨i + 1, .chars hx rfl, (ih hi).mpr hr⟩
      · have hm : meaning c = .chars (.one c) := by simp [meaning]
        simp only [covers_literal_iff hs hq, drop_eq_cons_iff, hm]
        constructor
        · rintro ⟨k, hl, hr⟩
          cases hl with
          | chars hx hc =>
            cases contains_one_iff.mp hc
            exact ⟨_, ⟨hx, rfl⟩, (ih (List.getElem?_eq_some_iff.mp hx).1).mp hr⟩
        · rintro ⟨rest, ⟨hx, rfl⟩, hr⟩
          have hi := (List.getElem?_eq_some_iff.mp hx).1
          exact ⟨i + 1, .chars hx (contains_one_iff.mpr rfl), (ih hi).mpr hr⟩

end

theorem matches_regex_iff (g : Glob) (text : List Char) :
    (regex g).Matches text ↔ Covers g text :=
  (Regex.matches_anchored_iff _ _).trans (leads_iff_covers g (Nat.zero_le _))

theorem Covers.refl (g : Glob) : Covers g g := by
  induction g with
  | nil => exact .nil
  | cons p g ih =>
    by_cases hs : p = '*'
    · exact hs ▸ .run ['*'] ih
    · by_cases hq : p = '?'
      · exact hq ▸ .any '?' ih
      · exact .literal hs hq ih

end Glob

/-! ## Patterns that are globs -/

theorem betweenSlashes?_eq_some_iff {cs body : List Char} :
    betweenSlashes? cs = some body ↔ cs = '/' :: (body ++ ['/']) := by
  constructor
  · intro h
    unfold betweenSlashes? at h
    split at h
    · next rest =>
      split_ifs at h with hl
      cases h
      obtain ⟨body, rfl⟩ := List.getLast?_eq_some_iff.mp (beq_iff_eq.mp hl)
      rw [List.dropLast_concat]
    · cases h
  · rintro rfl
    simp [betweenSlashes?]

theorem compile?_expression (g : Glob) :
    Regex.engine.compile? (Glob.expression g) = some (Glob.regex g).isMatch := by
  have hl : 2 ≤ Regex.nestingLimit := by decide
  exact congrArg (Option.map Regex.isMatch) (Glob.ofTextWithin?_expression g hl)

theorem ofText_of_isGlob {text : String} (hb : betweenSlashes? text.toList = none)
    (hg : isGlob text.toList = true) :
    ofText Regex.engine text = glob (Glob.regex text.toList).isMatch := by
  simp only [ofText, hb, hg, if_true, compile?_expression]

theorem betweenSlashes?_of_head? {cs : List Char} (h : cs.head? ≠ some '/') :
    betweenSlashes? cs = none := by
  unfold betweenSlashes?
  split
  · exact absurd rfl h
  · rfl

/-- Under any engine, a text without a star or a question mark accepts itself, unless it may be
a regular expression. -/
theorem accepts_ofText_self {e : Engine} {text : String} (h : text.toList.head? ≠ some '/')
    (hg : isGlob text.toList = false) : (ofText e text).accepts text = true := by
  simp only [ofText, betweenSlashes?_of_head? h, hg, Bool.false_eq_true, if_false]
  exact beq_self_eq_true text

theorem accepts_glob_self {text : String} (h : text.toList.head? ≠ some '/')
    (hg : isGlob text.toList = true) : (ofText Regex.engine text).accepts text = true := by
  rw [ofText_of_isGlob (betweenSlashes?_of_head? h) hg, accepts, Regex.isMatch_iff,
    Glob.matches_regex_iff]
  exact .refl _

/-- A text with a star or a question mark that is not written between slashes accepts exactly the
candidates that can be cut into pieces for its characters. -/
theorem accepts_glob_iff {text candidate : String} (h : '*' ∈ text.toList ∨ '?' ∈ text.toList)
    (hs : ∀ body, text ≠ "/" ++ body ++ "/") :
    (ofText Regex.engine text).accepts candidate = true ↔
      Glob.Covers text.toList candidate.toList := by
  have hg : isGlob text.toList = true := by
    simpa [isGlob] using h
  have hb : betweenSlashes? text.toList = none := by
    rw [Option.eq_none_iff_forall_ne_some]
    intro body hb
    have hl := betweenSlashes?_eq_some_iff.mp hb
    exact hs (String.ofList body) (String.toList_injective (by simpa using hl))
  rw [ofText_of_isGlob hb hg, accepts, Regex.isMatch_iff, Glob.matches_regex_iff]

/-- In `a.*?`, which is a glob, the point stands for itself alone, the star for line feeds too. -/
theorem accepts_glob_iff_point :
    '*' ∈ "a.*?".toList ∧ (∀ body, "a.*?" ≠ "/" ++ body ++ "/") ∧
      (ofText Regex.engine "a.*?").accepts "a.\né" = true ∧
      (ofText Regex.engine "a.*?").accepts "ax\né" = false := by
  have h : '*' ∈ "a.*?".toList := by decide
  have hs : ∀ body, "a.*?" ≠ "/" ++ body ++ "/" := by
    intro body hb
    have := congrArg (fun s => s.toList.head?) hb
    simp at this
  refine ⟨h, hs, ?_, ?_⟩
  · rw [accepts_glob_iff (Or.inl h) hs]
    exact .literal (by decide) (by decide) <|
      .literal (by decide) (by decide) (.run ['\n'] (.any 'é' .nil))
  · rw [← Bool.not_eq_true, accepts_glob_iff (Or.inl h) hs]
    rintro (_ | _ | _ | ⟨_, _, _ | _ | _ | ⟨_, _, _⟩⟩)

end AuditTrail.Pattern
