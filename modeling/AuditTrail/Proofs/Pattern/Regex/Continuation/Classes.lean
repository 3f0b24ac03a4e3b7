import AuditTrail.Proofs.Pattern.Regex.Continuation.Basic

/-! # Classes in a text that goes on

A class is closed by a bracket of its own, so that none takes the bracket after the body for its
end. A range may take it for an item, but leaves nothing then that closes the class.
 -/

namespace AuditTrail.Pattern.Regex

variable {flags : Flags} {cs ds rest : List Char}

theorem Flags.readItem?_follows (flags : Flags) (h : Continues cs ds) :
    Follows (Beside Continues)
      (fun p => Beyond p.2 ∨ (∃ l, p.1 = .look l) ∧ AtBrace flags p.2)
      (flags.readItem? cs) (flags.readItem? ds) := by
  cases h with
  | skipped => exact .neither
  | on =>
    cases cs with
    | nil => exact .past (Or.inl beyond_anchor)
    | cons c cs =>
      by_cases hb : c = '\\'
      · subst hb
        exact flags.readEscape?_follows (.on cs)
      · simp only [Flags.readItem?, List.cons_append]
        exact .both ⟨rfl, .on cs⟩

theorem Flags.skip_brace (flags : Flags) (cs : List Char) : flags.skip ('{' :: cs) = '{' :: cs := by
  unfold Flags.skip
  split
  · rfl
  · rfl

theorem Flags.peek?_beq (flags : Flags) {c : Char} (h : Continues cs ds) (hc : c ≠ ')') :
    (flags.peek? ds == some c) = (flags.peek? cs == some c) := by
  have hb := h.dropWhile (p := Text.isBlank) (by decide)
  unfold Flags.peek?
  split
  · rcases hb.byHead (c := '#') (by decide) with ⟨cs, ds, hcs, hds, ht⟩ | ⟨hcs, hds⟩
    · rw [hcs, hds]
      exact (ht.dropWhile (by decide)).head?_beq hc
    · simp only
      exact hb.head?_beq hc
  · exact h.head?_beq hc

theorem Flags.readRangeFrom?_follows (flags : Flags) (first : Atom) (h : Continues cs ds) :
    Follows (Beside Continues) (fun p => p.2 <:+ closing) (flags.readRangeFrom? first cs)
      (flags.readRangeFrom? first ds) := by
  have hs := h.skip flags
  generalize hc : flags.skip cs = a at hs
  generalize hd : flags.skip ds = b at hs
  cases hs with
  | skipped =>
    simp only [Flags.readRangeFrom?, hc, hd]
    exact .neither
  | on =>
    cases a with
    | nil =>
      have hn : flags.readRangeFrom? first cs = none := by simp only [Flags.readRangeFrom?, hc]
      rw [hn]
      refine Follows.of_none fun p hp => ?_
      have hs := flags.readRangeFrom?_suffix hp
      rwa [hd] at hs
    | cons c more =>
      have hm := (Continues.on more).skip flags
      simp only [Flags.readRangeFrom?, hc, hd, List.cons_append,
        flags.peek?_beq (c := ']') (.on more) (by decide),
        flags.peek?_beq (c := '-') (.on more) (by decide)]
      split_ifs
      · exact Follows.map_same _ fun item => ⟨rfl, .on (c :: more)⟩
      · refine (flags.readItem?_follows hm).bind ?_ ?_
        · rintro ⟨last, a⟩ ⟨_, b⟩ ⟨rfl, h⟩
          exact Follows.bind_same _ fun item => .both ⟨rfl, h⟩
        · rintro ⟨last, b⟩ (hb | ⟨⟨l, rfl⟩, hb⟩)
          · refine Follows.of_none fun p hp => ?_
            obtain ⟨item, -, hp⟩ := Option.bind_eq_some_iff.mp hp
            cases hp
            exact hb.suffix_closing
          · have hr : flags.range? first (.look l) = none := by
              cases first <;> rfl
            simp only [hr]
            exact .neither

theorem Flags.readRange?_follows (flags : Flags) (h : Continues cs ds) :
    Follows (Beside Continues) (fun p => p.2 <:+ closing) (flags.readRange? cs)
      (flags.readRange? ds) := by
  refine (flags.readItem?_follows h).bind ?_ ?_
  · rintro ⟨first, a⟩ ⟨_, b⟩ ⟨rfl, h⟩
    exact flags.readRangeFrom?_follows first h
  · rintro ⟨first, b⟩ (hb | ⟨⟨l, rfl⟩, blanks, rfl, -⟩)
    · refine Follows.of_none fun p hp => (flags.readRangeFrom?_suffix hp).trans ?_
      exact (flags.skip_suffix b).trans hb.suffix_closing
    · simp only [Flags.readRangeFrom?, Flags.skip_brace]
      exact .neither

theorem Flags.readHyphens_of_ne (flags : Flags) (c : OpenClass) (n : Nat)
    (h : ∀ cs', cs ≠ '-' :: cs') : flags.readHyphens c n cs = (c, cs) := by
  unfold Flags.readHyphens
  split
  · exact absurd rfl (h _)
  · rfl

theorem Flags.readHyphens_beside (flags : Flags) {c : OpenClass} {n m : Nat}
    (h : Continues cs ds) (hn : cs.length ≤ n) (hm : ds.length ≤ m) :
    Beside Continues (flags.readHyphens c n cs) (flags.readHyphens c m ds) := by
  induction n generalizing cs ds c m with
  | zero =>
    obtain rfl := List.length_eq_zero_iff.mp (Nat.le_zero.mp hn)
    rcases h.byHead (c := '-') (by decide) with ⟨cs, ds, hc, -, -⟩ | ⟨hc, hd⟩
    · cases hc
    · rw [flags.readHyphens_of_ne c _ hc, flags.readHyphens_of_ne c _ hd]
      exact ⟨rfl, h⟩
  | succ n ih =>
    rcases h.byHead (c := '-') (by decide) with ⟨cs, ds, rfl, rfl, ht⟩ | ⟨hc, hd⟩
    · obtain ⟨m, rfl⟩ := Nat.exists_eq_add_one_of_ne_zero (Nat.ne_zero_of_lt hm)
      have hl := (flags.skip_suffix cs).length_le
      have hl' := (flags.skip_suffix ds).length_le
      simp only [List.length_cons] at hn hm
      exact ih (ht.skip flags) (by omega) (by omega)
    · rw [flags.readHyphens_of_ne c _ hc, flags.readHyphens_of_ne c _ hd]
      exact ⟨rfl, h⟩

theorem Flags.readCaret_beside (flags : Flags) (h : Continues cs ds) :
    Beside Continues (flags.readCaret cs) (flags.readCaret ds) := by
  have hs := h.skip flags
  unfold Flags.readCaret
  generalize flags.skip cs = a at hs
  generalize flags.skip ds = b at hs
  rcases hs.byHead (c := '^') (by decide) with ⟨a, b, rfl, rfl, ht⟩ | ⟨hc, hd⟩
  · exact ⟨rfl, ht.skip flags⟩
  · simp only
    exact ⟨rfl, hs⟩

theorem Flags.readClassFront?_follows (flags : Flags) (h : Continues cs ds) :
    Follows (Beside Continues) (fun p => p.2 <:+ closing) (flags.readClassFront? cs)
      (flags.readClassFront? ds) := by
  have hc := flags.readCaret_beside h
  unfold Flags.readClassFront?
  generalize flags.readCaret cs = x at hc
  generalize flags.readCaret ds = y at hc
  obtain ⟨negated, a⟩ := x
  obtain ⟨_, b⟩ := y
  obtain ⟨rfl, ht⟩ := hc
  have hf : ∀ x y : OpenClass × List Char, Beside Continues x y →
      Follows (Beside Continues) (fun p => p.2 <:+ closing)
        (if x.2.isEmpty then none else some x) (if y.2.isEmpty then none else some y) := by
    rintro ⟨c, a⟩ ⟨_, b⟩ ⟨rfl, h⟩
    cases h with
    | skipped => exact .neither
    | on =>
      cases a with
      | nil => exact .past List.suffix_rfl
      | cons => exact .both ⟨rfl, .on _⟩
  refine hf _ _ ?_
  dsimp only at ht ⊢
  rcases ht.byHead (c := ']') (by decide) with ⟨a, b, rfl, rfl, ht'⟩ | ⟨hc, hd⟩
  · exact ⟨rfl, ht'.skip flags⟩
  · simp only
    exact flags.readHyphens_beside ht (Nat.le_refl _) (Nat.le_refl _)

theorem readPosixName?_follows (h : Continues cs ds) :
    Follows (Beside Continues) Never (readPosixName? cs) (readPosixName? ds) := by
  unfold readPosixName?
  rcases h.upTo (c := ':') (by decide) with ⟨a, b, hw, hc, hd, ht⟩ | ⟨hc, hd⟩
  · rw [hw, hc, hd]
    rcases ht.byHead (c := ']') (by decide) with ⟨a, b, rfl, rfl, ht'⟩ | ⟨ha, hb⟩
    · exact Follows.map_same _ fun c => ⟨rfl, ht'⟩
    · split
      · next hm =>
        cases hm
        exact absurd rfl (ha _)
      · split
        · next hm =>
          cases hm
          exact absurd rfl (hb _)
        · exact .neither
  · rw [hc, hd]
    exact .neither

theorem readPosix?_follows (h : Continues cs ds) :
    Follows (Beside Continues) Never (readPosix? cs) (readPosix? ds) := by
  have hp : ∀ {cs ds : List Char} (negated : Bool), Continues cs ds →
      Follows (Beside Continues) Never ((readPosixName? cs).map fun p => ((p.1, negated), p.2))
        ((readPosixName? ds).map fun p => ((p.1, negated), p.2)) := by
    intro cs ds negated h
    refine (readPosixName?_follows h).map ?_ fun _ => id
    rintro p q ⟨hp, hr⟩
    exact ⟨by rw [hp], hr⟩
  rcases h.byHead (c := ':') (by decide) with ⟨cs, ds, rfl, rfl, ht⟩ | ⟨hc, hd⟩
  · rcases ht.byHead (c := '^') (by decide) with ⟨cs, ds, rfl, rfl, ht'⟩ | ⟨hc, hd⟩
    · exact hp true ht'
    · simp only [readPosix?]
      exact hp false ht
  · have hc' : ∀ rest, cs ≠ ':' :: '^' :: rest := fun _ => hc _
    have hd' : ∀ rest, ds ≠ ':' :: '^' :: rest := fun _ => hd _
    simp only [readPosix?]
    exact .neither

namespace Classes

variable {c : Classes}

theorem step?_eq_readRange? {d : Char} (hb : d ≠ '[' ∧ d ≠ ']')
    (ho : (d = '&' ∨ d = '-' ∨ d = '~') → cs.head? ≠ some d) :
    c.step? flags (d :: cs) =
      (flags.readRange? (d :: cs)).map fun p => (.inl (c.add p.1), p.2) := by
  unfold step?
  split
  · next hm => cases hm
  · next hm =>
    cases hm
    exact absurd rfl hb.1
  · next hm =>
    cases hm
    exact absurd rfl hb.2
  · next hm =>
    cases hm
    exact absurd rfl (ho (by decide))
  · next hm =>
    cases hm
    exact absurd rfl (ho (by decide))
  · next hm =>
    cases hm
    exact absurd rfl (ho (by decide))
  · rfl

theorem step?_closing {rest : List Char} {o : Classes ⊕ Text.CharClass × Nat} (hs : cs <:+ closing)
    (h : c.step? flags cs = some (o, rest)) : (∃ c', o = .inl c') ∧ rest <:+ closing := by
  cases cs with
  | nil => cases h
  | cons d cs =>
    refine ⟨?_, (step?_suffix h).trans ((List.suffix_cons _ _).trans hs)⟩
    rw [step?_eq_readRange?] at h
    · obtain ⟨p, -, h⟩ := Option.map_eq_some_iff.mp h
      cases h
      exact ⟨_, rfl⟩
    · rcases mem_closing.mp (hs.subset List.mem_cons_self) with rfl | rfl <;> decide
    · rcases mem_closing.mp (hs.subset List.mem_cons_self) with rfl | rfl <;> simp

theorem step?_follows (flags : Flags) (c : Classes) (h : Continues cs ds) :
    Follows (Beside Continues) (fun p => (∃ c', p.1 = .inl c') ∧ p.2 <:+ closing)
      (c.step? flags cs) (c.step? flags ds) := by
  cases h with
  | skipped => exact .neither
  | on =>
    cases cs with
    | nil => exact Follows.of_none fun p hp => step?_closing List.suffix_rfl hp
    | cons d cs =>
      by_cases hl : d = '['
      · subst hl
        have hp := readPosix?_follows (.on cs)
        simp only [List.cons_append, step?]
        generalize readPosix? cs = x at hp
        generalize readPosix? (cs ++ closing) = y at hp
        cases hp with
        | @both x y hxy =>
          obtain ⟨p, a⟩ := x
          obtain ⟨_, b⟩ := y
          obtain ⟨rfl, hr⟩ := hxy
          exact Follows.map_same _ fun item => ⟨rfl, hr⟩
        | neither =>
          refine (flags.readClassFront?_follows (.on cs)).map ?_ fun p hp => ⟨⟨_, rfl⟩, hp⟩
          rintro ⟨f, a⟩ ⟨_, b⟩ ⟨rfl, hr⟩
          exact ⟨rfl, hr⟩
        | past hy => exact hy.elim
      · by_cases hr : d = ']'
        · subst hr
          exact Follows.map_same _ fun all => ⟨rfl, .on cs⟩
        · by_cases ho : (d = '&' ∨ d = '-' ∨ d = '~') ∧ cs.head? = some d
          · obtain ⟨ho, hd⟩ := ho
            obtain ⟨cs, rfl⟩ := List.head?_eq_some_iff.mp hd
            rcases ho with rfl | rfl | rfl
            · exact .both ⟨rfl, .on cs⟩
            · exact .both ⟨rfl, .on cs⟩
            · exact .both ⟨rfl, .on cs⟩
          · rw [not_and] at ho
            have ho' : (d = '&' ∨ d = '-' ∨ d = '~') → (cs ++ closing).head? ≠ some d := by
              intro hd hh
              refine ho hd ?_
              have hp : d ≠ ')' := by
                rcases hd with rfl | rfl | rfl <;> decide
              simpa using ((Continues.on cs).head?_beq hp).symm.trans (beq_iff_eq.mpr hh)
            rw [List.cons_append, step?_eq_readRange? ⟨hl, hr⟩ ho, step?_eq_readRange? ⟨hl, hr⟩ ho']
            refine (flags.readRange?_follows (.on (d :: cs))).map ?_ fun p hp => ⟨⟨_, rfl⟩, hp⟩
            rintro ⟨item, a⟩ ⟨_, b⟩ ⟨rfl, hr⟩
            exact ⟨rfl, hr⟩

theorem run?_closing (h : cs <:+ closing) (c : Classes) (n : Nat) : c.run? flags n cs = none := by
  induction n generalizing c cs with
  | zero => rfl
  | succ n ih =>
    rw [run?]
    split
    · next hs => exact ih (step?_closing ((flags.skip_suffix cs).trans h) hs).2 _
    · next hs =>
      obtain ⟨⟨c', hc⟩, -⟩ := step?_closing ((flags.skip_suffix cs).trans h) hs
      cases hc
    · rfl

theorem run?_follows {n m : Nat} (h : Continues cs ds) (hn : cs.length < n) (hm : ds.length < m) :
    Follows (Beside Continues) Never (c.run? flags n cs) (c.run? flags m ds) := by
  induction n generalizing c cs ds m with
  | zero => exact absurd hn (Nat.not_lt_zero _)
  | succ n ih =>
    obtain ⟨m, rfl⟩ := Nat.exists_eq_add_one_of_ne_zero (Nat.ne_zero_of_lt hm)
    have hs := step?_follows flags c (h.skip flags)
    rw [run?, run?]
    generalize hx : c.step? flags (flags.skip cs) = x at hs
    generalize hy : c.step? flags (flags.skip ds) = y at hs
    cases hs with
    | @both x y hxy =>
      obtain ⟨o, a⟩ := x
      obtain ⟨_, b⟩ := y
      obtain ⟨rfl, hr⟩ := hxy
      cases o with
      | inr all => exact .both ⟨rfl, hr⟩
      | inl c' =>
        have hl := length_lt_of_step? hx
        have hl' := length_lt_of_step? hy
        exact ih hr (by omega) (by omega)
    | neither => exact .neither
    | @past y hp =>
      obtain ⟨o, b⟩ := y
      obtain ⟨⟨c', rfl⟩, hb⟩ := hp
      simp only [run?_closing hb]
      exact .neither

end Classes

theorem Flags.readBracket?_follows (flags : Flags) (h : Continues cs ds) :
    Follows (Beside Continues) Never (flags.readBracket? cs) (flags.readBracket? ds) := by
  refine (flags.readClassFront?_follows h).bind ?_ ?_
  · rintro ⟨c, a⟩ ⟨_, b⟩ ⟨rfl, ht⟩
    refine (Classes.run?_follows ht (Nat.lt_succ_self _) (Nat.lt_succ_self _)).bind ?_
      fun _ => False.elim
    rintro ⟨⟨all, depth⟩, a⟩ ⟨_, b⟩ ⟨rfl, hr⟩
    exact .both ⟨rfl, hr⟩
  · rintro ⟨c, b⟩ hb
    simp only [Classes.run?_closing hb]
    exact .neither

end AuditTrail.Pattern.Regex
