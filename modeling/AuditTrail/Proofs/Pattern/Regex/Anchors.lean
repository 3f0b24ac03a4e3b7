import AuditTrail.Pattern.Basic
import AuditTrail.Proofs.Pattern.Regex.Continuation.Groups
import AuditTrail.Proofs.Pattern.Regex.Matching

/-! # Bodies between anchors

An expression that is put between anchors as a text reads as the expression between anchors, unless
it ends in a comment, which swallows what follows, or closes a group that it has not opened, which
sets a part of it free of the anchors.
-/

namespace AuditTrail.Pattern.Regex

variable {cs ds rest body : List Char}

/-! ## Expressions between anchors -/

/-- An expression between anchors. -/
def betweenAnchors (r : Regex) : Regex := seqs [.look .start, r, .look .finish]

theorem matches_betweenAnchors_iff (r : Regex) (text : List Char) :
    r.betweenAnchors.Matches text ↔ r.MatchesWhole text := by
  refine (matches_anchored_iff [r] text).trans ?_
  simp [MatchesWhole, leads_seqs_cons_iff]

/-! ## Skipping twice -/

theorem skipSpace_skipSpace (inComment : Bool) (cs : List Char) :
    skipSpace false (skipSpace inComment cs) = skipSpace inComment cs := by
  induction cs generalizing inComment with
  | nil => rfl
  | cons c cs ih =>
    rw [skipSpace]
    split_ifs with h1 h2 h3
    · exact ih _
    · exact ih _
    · exact ih _
    · simp [skipSpace, h2, h3]

theorem Flags.skip_skip (flags : Flags) (cs : List Char) :
    flags.skip (flags.skip cs) = flags.skip cs := by
  unfold Flags.skip
  split
  · exact skipSpace_skipSpace false cs
  · rfl

namespace Reading

variable {r r' s : Reading} {b : Flags × OpenGroup}

/-! ## What is read, step by step -/

theorem reads_iff_of_step {left : List Char} (hk : r.flags.skip cs = left)
    (h : r.step? left = some (r', rest)) : Reads r cs s ↔ Reads r' rest s := by
  subst hk
  constructor
  · intro hr
    cases hr with
    | done hc =>
      rw [hc] at h
      cases h
    | step hs hr =>
      cases h.symm.trans hs
      exact hr
  · exact .step h

theorem not_reads_of_step?_eq_none {left : List Char} (hk : r.flags.skip cs = left)
    (hl : left ≠ []) (h : r.step? left = none) : ¬Reads r cs s := by
  subst hk
  intro hr
  cases hr with
  | done hd => exact hl hd
  | step hs _ =>
    rw [h] at hs
    cases hs

theorem reads_iff_of_skip_eq_nil (h : r.flags.skip cs = []) : Reads r cs s ↔ s = r := by
  constructor
  · intro hr
    exact hr.unique (.done h)
  · rintro rfl
    exact .done h

theorem reads_skip_iff : Reads r (r.flags.skip cs) s ↔ Reads r cs s := by
  constructor
  · intro hr
    cases hr with
    | done hc => exact .done (r.flags.skip_skip cs ▸ hc)
    | step hs hr => exact .step (r.flags.skip_skip cs ▸ hs) hr
  · intro hr
    cases hr with
    | done hc => exact .done ((r.flags.skip_skip cs).symm ▸ hc)
    | step hs hr => exact .step ((r.flags.skip_skip cs).symm ▸ hs) hr

theorem skip_closing (flags : Flags) : flags.skip closing = closing := by
  unfold Flags.skip
  split
  · rfl
  · rfl

theorem reads_nil_iff : Reads r [] s ↔ s = r :=
  reads_iff_of_skip_eq_nil (List.suffix_nil.mp (r.flags.skip_suffix []))

theorem reads_anchor_iff : Reads r ['$'] s ↔ s = r.add (.look r.flags.dollar) := by
  have hk : r.flags.skip ['$'] = ['$'] := by
    unfold Flags.skip
    split <;> rfl
  rw [reads_iff_of_step hk rfl, reads_nil_iff]

theorem reads_closing_iff :
    Reads r closing s ↔ ∃ r', r.closeGroup? = some r' ∧ s = r'.add (.look r'.flags.dollar) := by
  have hs : r.step? closing = r.closeGroup?.map (·, ['$']) := rfl
  cases hc : r.closeGroup? with
  | none =>
    rw [hc] at hs
    constructor
    · intro hr
      exact absurd hr (not_reads_of_step?_eq_none (skip_closing _) (List.cons_ne_nil _ _) hs)
    · rintro ⟨r', hr, -⟩
      cases hr
  | some r' =>
    rw [hc] at hs
    rw [reads_iff_of_step (skip_closing _) hs, reads_anchor_iff]
    simp

theorem Reads.outer_of_beyond (h : Reads r cs s) (hb : Beyond cs) : s.outer = r.outer := by
  rcases hb.eq_nil_or with rfl | rfl
  · rw [reads_nil_iff.mp h]
  · rw [reads_anchor_iff.mp h]
    rfl

theorem not_reads_of_atBrace (h : AtBrace r.flags cs) : ¬Reads r cs s := by
  obtain ⟨blanks, rfl, hb⟩ := h
  refine not_reads_of_step?_eq_none (Flags.skip_brace _ _) (List.cons_ne_nil _ _) ?_
  have hc : r.flags.readCounts? blanks = none := by
    unfold Flags.readCounts?
    rw [hb]
    rfl
  simp only [step?, hc]
  rfl

/-! ## Reading within one more group -/

/-- The same reading within one more group. -/
def within (b : Flags × OpenGroup) (r : Reading) : Reading := { r with outer := r.outer ++ [b] }

@[simp] theorem flags_within (b : Flags × OpenGroup) (r : Reading) : (r.within b).flags = r.flags :=
  rfl

theorem outer_within_ne_nil (b : Flags × OpenGroup) (r : Reading) : (r.within b).outer ≠ [] :=
  List.append_ne_nil_of_right_ne_nil _ (List.cons_ne_nil _ _)

theorem openNamed?_within (b : Flags × OpenGroup) (r : Reading) (cs : List Char) :
    (r.within b).openNamed? cs = (r.openNamed? cs).map fun p => (p.1.within b, p.2) := by
  unfold openNamed?
  cases readName? cs with
  | none => rfl
  | some p =>
    show (if r.names.contains p.1 then none else some _) =
      Option.map _ (if r.names.contains p.1 then none else some _)
    split_ifs
    · rfl
    · rfl

theorem applyFlags?_within (b : Flags × OpenGroup) (r : Reading) (o : Flags × Bool × Char) :
    (r.within b).applyFlags? o = (r.applyFlags? o).map (within b) := by
  unfold applyFlags?
  split
  · rfl
  · rfl
  · rfl

theorem readGroup?_within (b : Flags × OpenGroup) (r : Reading) (cs : List Char) :
    (r.within b).readGroup? cs = (r.readGroup? cs).map fun p => (p.1.within b, p.2) := by
  unfold readGroup?
  split
  · exact openNamed?_within b r _
  · exact openNamed?_within b r _
  · next more _ _ =>
    simp only [applyFlags?_within, flags_within, Option.bind_eq_bind, Option.map_bind,
      Option.bind_map, Function.comp_def, Option.map_some]
  · rfl

theorem readOpen?_within (b : Flags × OpenGroup) (r : Reading) (cs : List Char) :
    (r.within b).readOpen? cs = (r.readOpen? cs).map fun p => (p.1.within b, p.2) := by
  simp only [readOpen?, flags_within, readGroup?_within]
  split_ifs
  · rfl
  · rfl

theorem repeat?_within (b : Flags × OpenGroup) (r : Reading) (least : Nat) (most : Option Nat) :
    (r.within b).repeat? least most = (r.repeat? least most).map (within b) := by
  simp only [repeat?, Option.map_map]
  rfl

theorem step?_within (b : Flags × OpenGroup) (r : Reading) {c : Char}
    (h : c = ')' → r.outer ≠ []) (cs : List Char) :
    (r.within b).step? (c :: cs) = (r.step? (c :: cs)).map fun p => (p.1.within b, p.2) := by
  by_cases hc : c ∈ operators
  · simp only [operators, List.mem_cons, List.not_mem_nil, or_false] at hc
    rcases hc with rfl | rfl | rfl | rfl | rfl | rfl | rfl | rfl
    · exact readOpen?_within b r cs
    · obtain ⟨x, o, ho⟩ := List.exists_cons_of_ne_nil (h rfl)
      simp [step?, closeGroup?, within, ho]
    · rfl
    · simp only [step?, Option.map_map]
      rfl
    · simp only [step?, repeat?_within, Option.map_map]
      rfl
    · simp only [step?, repeat?_within, Option.map_map]
      rfl
    · simp only [step?, repeat?_within, Option.map_map]
      rfl
    · simp only [step?, repeat?_within, flags_within, Option.bind_eq_bind, Option.map_bind,
        Option.bind_map, Function.comp_def, Option.map_some]
  · rw [step?_eq_readSingle? hc, step?_eq_readSingle? hc, Option.map_map]
    rfl

theorem outer_ne_nil_of_step? (h : r.step? (')' :: cs) = some (r', rest)) : r.outer ≠ [] := by
  intro ho
  simp [step?, closeGroup?, ho] at h

/-! ## Reading on after a body -/

/-- Reading comes to a closing bracket where no group is open. -/
inductive Strays : Reading → List Char → Prop
  | here {r : Reading} {cs rest : List Char} :
    r.outer = [] → r.flags.skip cs = ')' :: rest → Strays r cs
  | later {r r' : Reading} {cs rest : List Char} :
    r.step? (r.flags.skip cs) = some (r', rest) → Strays r' rest → Strays r cs

theorem Strays.not_reads (h : Strays r cs) : ¬Reads r cs s := by
  induction h with
  | here ho hk =>
    refine not_reads_of_step?_eq_none hk (List.cons_ne_nil _ _) ?_
    simp [step?, closeGroup?, ho]
  | later hs _ ih => rwa [reads_iff_of_step rfl hs]

theorem step?_continues (hs : r.step? cs = some (r', rest)) (h : Continues cs ds) :
    ∃ rest', Continues rest rest' ∧ r.step? ds = some (r', rest') ∧
      ∀ b, (r.within b).step? ds = some (r'.within b, rest') := by
  cases cs with
  | nil => cases hs
  | cons c cs =>
    obtain ⟨ds, rfl, ht⟩ := h.cons
    have hf := r.step?_follows c ht
    rw [hs] at hf
    generalize hy : r.step? (c :: ds) = y at hf
    cases hf with
    | @both _ y hxy =>
      obtain ⟨_, rest'⟩ := y
      obtain ⟨rfl, hr⟩ := hxy
      refine ⟨rest', hr, rfl, fun b => ?_⟩
      rw [step?_within b r _ ds, hy]
      · rfl
      · rintro rfl
        exact outer_ne_nil_of_step? hs

/-- After a body reading goes on where the body ends, be it within one more group. -/
theorem Reads.continues (h : Reads r cs s) (hc : Continues cs ds) :
    ∃ left, Continues [] left ∧ (∀ s', Reads r ds s' ↔ Reads s left s') ∧
      ∀ b s', Reads (r.within b) ds s' ↔ Reads (s.within b) left s' := by
  induction h generalizing ds with
  | @done r cs hd =>
    refine ⟨r.flags.skip ds, hd ▸ hc.skip r.flags, fun s' => reads_skip_iff.symm, fun b s' => ?_⟩
    exact (reads_skip_iff (r := r.within b)).symm
  | @step r r' s cs rest hs _ ih =>
    obtain ⟨rest', hr, hs', hw⟩ := step?_continues hs (hc.skip r.flags)
    obtain ⟨left, hl, h1, h2⟩ := ih hr
    refine ⟨left, hl, fun s' => ?_, fun b s' => ?_⟩
    · rw [reads_iff_of_step rfl hs', h1]
    · rw [reads_iff_of_step rfl (hw b), h2]

/-- Reading within one more group comes to its end within it, unless the body closes that group or
comes to its own end. -/
theorem Reads.of_continues (h : Reads (r.within b) ds s) (hc : Continues cs ds) :
    Strays r cs ∨ (∃ s', Reads r cs s') ∨ s.outer ≠ [] := by
  generalize hw : r.within b = w at h
  induction h generalizing r cs with
  | done =>
    subst hw
    exact Or.inr (Or.inr (outer_within_ne_nil b r))
  | @step w w' s ds rest' hs hr ih =>
    subst hw
    have hk := hc.skip r.flags
    rw [flags_within] at hs
    generalize hcs : r.flags.skip cs = a at hk
    generalize hds : r.flags.skip ds = d at hk hs
    cases hk with
    | skipped => cases hs
    | on =>
      cases a with
      | nil => exact Or.inr (Or.inl ⟨r, .done hcs⟩)
      | cons c more =>
        by_cases hst : c = ')' ∧ r.outer = []
        · obtain ⟨rfl, ho⟩ := hst
          exact Or.inl (.here ho hcs)
        · rw [List.cons_append, step?_within b r (fun h ho => hst ⟨h, ho⟩)] at hs
          obtain ⟨⟨r', left⟩, hs', he⟩ := Option.map_eq_some_iff.mp hs
          cases he
          have hf := r.step?_follows c (.on more)
          rw [hs'] at hf
          generalize hx : r.step? (c :: more) = x at hf
          cases hf with
          | @both x _ hxy =>
            obtain ⟨_, rest⟩ := x
            obtain ⟨rfl, hr'⟩ := hxy
            rw [← hcs] at hx
            rcases ih hr' rfl with h | ⟨s', h⟩ | h
            · exact Or.inl (.later hx h)
            · exact Or.inr (Or.inl ⟨s', .step hx h⟩)
            · exact Or.inr (Or.inr h)
          | past hp =>
            -- The body alone allows no step here, and what is left closes no group.
            rcases hp with hp | hp
            · rw [hr.outer_of_beyond hp]
              exact Or.inr (Or.inr (outer_within_ne_nil b r'))
            · exact absurd hr (not_reads_of_atBrace hp)

/-! ## Bodies -/

/-- The group that a body between anchors stands in. -/
def anchorGroup : Flags × OpenGroup := ({}, { items := [⟨some (.look .start), 0⟩] })

theorem reads_anchored_iff : Reads {} (anchored body) s ↔
    Reads (({} : Reading).within anchorGroup) (body ++ closing) s := by
  have hc : step? {} (anchored body) =
      some ({ group := anchorGroup.2 }, '(' :: '?' :: ':' :: (body ++ closing)) := rfl
  have ho : step? { group := anchorGroup.2 } ('(' :: '?' :: ':' :: (body ++ closing)) =
      some (({} : Reading).within anchorGroup, body ++ closing) := rfl
  rw [reads_iff_of_step (Flags.skip_of_not_verbose rfl _) hc,
    reads_iff_of_step (Flags.skip_of_not_verbose rfl _) ho]

/-- What has been read of an anchored text whose body is read. -/
def anchor (r : Reading) : Reading where
  group := ((anchorGroup.2.add r.group.close (r.group.depth + 1)).add (.look .finish))
  names := r.names

theorem reads_within_closing_iff (h : r.outer = []) :
    Reads (r.within anchorGroup) closing s ↔ s = r.anchor := by
  have hc : (r.within anchorGroup).closeGroup? = some { r with
      flags := {}, group := anchorGroup.2.add r.group.close (r.group.depth + 1) } := by
    simp [closeGroup?, within, anchorGroup, h]
  rw [reads_closing_iff, hc]
  simp [anchor, add, Flags.dollar, h]

theorem outer_of_reads_closing (h : Reads r closing s) : ∃ x, r.outer = x :: s.outer := by
  obtain ⟨r', hc, rfl⟩ := reads_closing_iff.mp h
  unfold closeGroup? at hc
  split at hc
  · cases hc
  · next ho =>
    cases hc
    exact ⟨_, ho⟩

theorem depth_anchor (r : Reading) : r.anchor.group.depth = r.group.depth + 2 := by
  simp [anchor, anchorGroup, OpenGroup.add, OpenGroup.depth, nesting]

theorem close_anchor (r : Reading) : r.anchor.group.close = r.group.close.betweenAnchors := by
  simp [anchor, anchorGroup, OpenGroup.add, OpenGroup.close, OpenGroup.alternative, betweenAnchors]

theorem closed?_eq_some_iff {levels : Nat} {e : Regex} : r.closed? levels = some e ↔
    r.outer = [] ∧ r.group.depth ≤ levels ∧ r.group.close = e := by
  unfold closed?
  split_ifs with h
  · rw [Bool.and_eq_true, List.isEmpty_iff, decide_eq_true_eq] at h
    simp [h.1, h.2]
  · rw [Bool.and_eq_true, List.isEmpty_iff, decide_eq_true_eq] at h
    simp only [false_iff]
    rintro ⟨ho, hd, -⟩
    exact h ⟨ho, hd⟩

end Reading

/-- A body ends in a comment if the bracket and the anchor after it are skipped. -/
def EndsInComment (body : List Char) : Prop :=
  ∃ r, Reading.Reads {} body r ∧ Reading.Reads {} (body ++ closing) r

/-- A body has a stray bracket if it closes a group that it has not opened. -/
def HasStrayBracket (body : List Char) : Prop := Reading.Strays {} body

theorem ofTextWithin?_of_hasStrayBracket (h : HasStrayBracket body) (levels : Nat) :
    ofTextWithin? levels body = none := by
  rw [Option.eq_none_iff_forall_ne_some]
  intro e he
  obtain ⟨r, hr, -⟩ := ofTextWithin?_eq_some_iff.mp he
  exact h.not_reads hr

theorem reads_anchored_of_reads {r : Reading} (h : Reading.Reads {} body r) :
    EndsInComment body ∧ (∀ s, Reading.Reads {} (anchored body) s ↔
      s = r.within Reading.anchorGroup) ∨
    ¬EndsInComment body ∧ ∀ s, Reading.Reads {} (anchored body) s ↔
      Reading.Reads (r.within Reading.anchorGroup) closing s := by
  obtain ⟨left, hl, h1, h2⟩ := h.continues (.on body)
  simp only [Reading.reads_anchored_iff, h2]
  cases hl with
  | skipped =>
    refine Or.inl ⟨⟨r, h, (h1 r).mpr (Reading.reads_nil_iff.mpr rfl)⟩, fun s => ?_⟩
    exact Reading.reads_nil_iff
  | on =>
    refine Or.inr ⟨?_, fun s => Iff.rfl⟩
    rintro ⟨r', hr, hc⟩
    obtain rfl := h.unique hr
    obtain ⟨x, ho⟩ := Reading.outer_of_reads_closing ((h1 r).mp hc)
    exact absurd (congrArg List.length ho) (by simp)

/-- Between anchors a body without a stray bracket is read as an expression of its own. -/
theorem ofTextWithin?_anchored_iff {levels : Nat} {e : Regex} (h : ¬HasStrayBracket body) :
    ofTextWithin? (levels + 2) (anchored body) = some e ↔
      ¬EndsInComment body ∧ ∃ r, ofTextWithin? levels body = some r ∧
        e = r.betweenAnchors := by
  simp only [ofTextWithin?_eq_some_iff, Reading.closed?_eq_some_iff]
  constructor
  · rintro ⟨s, hs, ho, hd, rfl⟩
    rcases (Reading.reads_anchored_iff.mp hs).of_continues (.on body) with hb | ⟨r, hr⟩ | hb
    · exact absurd hb h
    · rcases reads_anchored_of_reads hr with ⟨-, hi⟩ | ⟨hc, hi⟩
      · obtain rfl := (hi s).mp hs
        exact absurd ho (Reading.outer_within_ne_nil _ r)
      · have hs := (hi s).mp hs
        obtain ⟨x, hx⟩ := Reading.outer_of_reads_closing hs
        have hro : r.outer = [] := by
          have hl := congrArg List.length hx
          rw [ho] at hl
          simpa [Reading.within] using hl
        obtain rfl := (Reading.reads_within_closing_iff hro).mp hs
        rw [Reading.depth_anchor] at hd
        exact ⟨hc, _, ⟨r, hr, hro, Nat.le_of_add_le_add_right hd, rfl⟩, r.close_anchor⟩
    · exact absurd ho hb
  · rintro ⟨hc, r, ⟨s, hs, ho, hd, rfl⟩, rfl⟩
    rcases reads_anchored_of_reads hs with ⟨hc', -⟩ | ⟨-, hi⟩
    · exact absurd hc' hc
    · refine ⟨s.anchor, (hi _).mpr ((Reading.reads_within_closing_iff ho).mpr rfl), rfl, ?_, ?_⟩
      · rw [Reading.depth_anchor]
        exact Nat.add_le_add_right hd 2
      · exact s.close_anchor

end AuditTrail.Pattern.Regex
