import AuditTrail.Proofs.Pattern.Regex.Continuation.Classes

/-! # Groups in a text that goes on

A step of the reader from the body is the same step from what continues the body. Where the body
alone allows none, a step that takes the bracket into an escape or into flags leaves nothing that
closes a group.
 -/

namespace AuditTrail.Pattern.Regex

open Text (isBlank)

variable {flags : Flags} {cs ds rest : List Char}

/-! ## Single items and counts -/

theorem Flags.readSingle?_of_ne (flags : Flags) {c : Char} (hc : c ≠ '\\') :
    ∃ o : Option Regex, ∀ cs, flags.readSingle? (c :: cs) = o.map (·, cs) := by
  by_cases hp : c = '.'
  · exact ⟨_, fun cs => by rw [hp, Flags.readSingle?]⟩
  · by_cases hs : c = '^'
    · exact ⟨some _, fun cs => by rw [hs, Flags.readSingle?, Option.map_some]⟩
    · by_cases hf : c = '$'
      · exact ⟨some _, fun cs => by rw [hf, Flags.readSingle?, Option.map_some]⟩
      · exact ⟨flags.literal? c false, fun cs => by simp only [Flags.readSingle?]⟩

theorem Flags.readSingle?_follows (flags : Flags) (c : Char) (h : Continues cs ds) :
    Follows (Beside Continues) (fun p => Beyond p.2 ∨ AtBrace flags p.2)
      (flags.readSingle? (c :: cs)) (flags.readSingle? (c :: ds)) := by
  by_cases hc : c = '\\'
  · subst hc
    refine (flags.readEscape?_follows h).bind ?_ ?_
    · rintro ⟨a, cs⟩ ⟨_, ds⟩ ⟨rfl, hr⟩
      exact Follows.bind_same _ fun r => .both ⟨rfl, hr⟩
    · rintro ⟨a, rest⟩ hp
      refine Follows.of_none fun p hr => ?_
      obtain ⟨r, -, hr⟩ := Option.bind_eq_some_iff.mp hr
      cases hr
      exact hp.imp_right And.right
  · obtain ⟨o, ho⟩ := flags.readSingle?_of_ne hc
    rw [ho, ho]
    exact Follows.map_same o fun r => ⟨rfl, h⟩

theorem Flags.readDigits_nil (flags : Flags) (done : List Char) (n : Nat) :
    flags.readDigits done n [] = (done.reverse, []) := by
  cases n <;> rfl

theorem Flags.readDigits_closing (flags : Flags) (done : List Char) (n : Nat) :
    flags.readDigits done n closing = (done.reverse, closing) := by
  cases n <;> rfl

theorem Flags.readDigits_beside (flags : Flags) (done : List Char) {n m : Nat}
    (h : Continues cs ds) (hn : cs.length ≤ n) (hm : ds.length ≤ m) :
    Beside Continues (flags.readDigits done n cs) (flags.readDigits done m ds) := by
  induction n generalizing cs ds done m with
  | zero =>
    obtain rfl := List.length_eq_zero_iff.mp (Nat.le_zero.mp hn)
    cases h with
    | skipped =>
      rw [flags.readDigits_nil, flags.readDigits_nil]
      exact ⟨rfl, .skipped⟩
    | on =>
      rw [flags.readDigits_nil, List.nil_append, flags.readDigits_closing]
      exact ⟨rfl, .on []⟩
  | succ n ih =>
    cases h with
    | skipped =>
      rw [flags.readDigits_nil, flags.readDigits_nil]
      exact ⟨rfl, .skipped⟩
    | on =>
      cases cs with
      | nil =>
        rw [flags.readDigits_nil, List.nil_append, flags.readDigits_closing]
        exact ⟨rfl, .on []⟩
      | cons c cs =>
        obtain ⟨m, rfl⟩ := Nat.exists_eq_add_one_of_ne_zero (Nat.ne_zero_of_lt hm)
        rw [List.cons_append, Flags.readDigits, Flags.readDigits]
        split_ifs
        · have hl := (flags.skip_suffix cs).length_le
          have hl' := (flags.skip_suffix (cs ++ closing)).length_le
          simp only [List.cons_append, List.length_cons] at hn hm
          exact ih _ ((Continues.on cs).skip flags) (by omega) (by omega)
        · exact ⟨rfl, .on (c :: cs)⟩

theorem isBlank_bracket : isBlank ')' = false := by decide

theorem Flags.readCount?_follows (flags : Flags) (h : Continues cs ds) :
    Follows (Beside Continues) Never (flags.readCount? cs) (flags.readCount? ds) := by
  have hd := flags.readDigits_beside [] (h.dropWhile isBlank_bracket) (Nat.le_refl _)
    (Nat.le_refl _)
  unfold Flags.readCount?
  dsimp only
  generalize flags.readDigits [] _ (cs.dropWhile isBlank) = x at hd
  generalize flags.readDigits [] _ (ds.dropWhile isBlank) = y at hd
  obtain ⟨digits, a⟩ := x
  obtain ⟨_, b⟩ := y
  obtain ⟨rfl, ht⟩ := hd
  dsimp only
  split_ifs
  · exact .neither
  · exact .both ⟨rfl, ht.dropWhile isBlank_bracket⟩

theorem Flags.readMost?_follows (flags : Flags) (least : Nat) (h : Continues cs ds) :
    Follows (Beside Continues) Never (flags.readMost? least cs) (flags.readMost? least ds) := by
  rcases h.byHead (c := ',') (by decide) with ⟨cs, ds, rfl, rfl, ht⟩ | ⟨hc, hd⟩
  · have hs := ht.skip flags
    rcases hs.byHead (c := '}') (by decide) with ⟨a, b, ha, hb, -⟩ | ⟨ha, hb⟩
    · simp only [Flags.readMost?, ha, hb]
      exact .both ⟨rfl, ha ▸ hb ▸ hs⟩
    · simp only [Flags.readMost?]
      refine (flags.readCount?_follows hs).map ?_ fun _ => id
      rintro ⟨n, a⟩ ⟨_, b⟩ ⟨rfl, hr⟩
      exact ⟨rfl, hr⟩
  · simp only [Flags.readMost?]
    exact .both ⟨rfl, h⟩

theorem Flags.readCounts?_follows (flags : Flags) (h : Continues cs ds) :
    Follows (Beside Continues) Never (flags.readCounts? cs) (flags.readCounts? ds) := by
  refine (flags.readCount?_follows (h.skip flags)).bind ?_ fun _ => False.elim
  rintro ⟨least, a⟩ ⟨_, b⟩ ⟨rfl, hl⟩
  refine (flags.readMost?_follows least hl).bind ?_ fun _ => False.elim
  rintro ⟨most, a⟩ ⟨_, b⟩ ⟨rfl, hm⟩
  dsimp only at hm ⊢
  rcases hm.byHead (c := '}') (by decide) with ⟨a, b, rfl, rfl, ht⟩ | ⟨ha, hb⟩
  · split_ifs
    · exact .both ⟨rfl, ht.skip flags⟩
    · exact .neither
  · simp only
    exact .neither

theorem Continues.dropLazy (h : Continues cs ds) : Continues (dropLazy cs) (dropLazy ds) := by
  rcases h.byHead (c := '?') (by decide) with ⟨cs, ds, rfl, rfl, ht⟩ | ⟨hc, hd⟩
  · exact ht
  · simp only [Regex.dropLazy]
    exact h

/-! ## Groups -/

theorem Flags.readFlags?_follows (flags : Flags) (seen : List Char) (on : Bool)
    (h : Continues cs ds) :
    Follows (Beside Continues) (fun p => Beyond p.2) (flags.readFlags? seen on cs)
      (flags.readFlags? seen on ds) := by
  cases h with
  | skipped => exact .neither
  | on =>
    induction cs generalizing flags seen on with
    | nil => exact Follows.of_none fun p hp => flags.readFlags?_suffix hp
    | cons c cs ih =>
      rw [List.cons_append, Flags.readFlags?, Flags.readFlags?]
      split_ifs
      · exact .neither
      · exact .both ⟨rfl, .on cs⟩
      · exact .neither
      · exact ih _ _ _
      · split
        · exact ih _ _ _
        · exact .neither

theorem readName?_follows (h : Continues cs ds) :
    Follows (Beside Continues) Never (readName? cs) (readName? ds) := by
  unfold readName?
  rcases h.upTo (c := '>') (by decide) with ⟨a, b, hw, hc, hd, ht⟩ | ⟨hc, hd⟩
  · rw [hw, hc, hd]
    cases cs.takeWhile (· != '>') with
    | nil => exact .neither
    | cons c more =>
      dsimp only
      split_ifs
      · exact .both ⟨rfl, ht⟩
      · exact .neither
  · rw [hc, hd]
    cases cs.takeWhile (· != '>') <;> cases ds.takeWhile (· != '>') <;> exact .neither

namespace Reading

variable {r : Reading}

theorem openNamed?_follows (r : Reading) (h : Continues cs ds) :
    Follows (Beside Continues) Never (r.openNamed? cs) (r.openNamed? ds) := by
  refine (readName?_follows h).bind ?_ fun _ => False.elim
  rintro ⟨name, a⟩ ⟨_, b⟩ ⟨rfl, ht⟩
  dsimp only
  split_ifs
  · exact .neither
  · exact .both ⟨rfl, ht⟩

theorem isPrefixOf_continues {word : List Char} (h : Continues cs ds) (hw : ')' ∉ word) :
    word.isPrefixOf ds = word.isPrefixOf cs := by
  cases h with
  | skipped => rfl
  | on =>
    induction word generalizing cs with
    | nil => simp
    | cons w word ih =>
      rw [List.mem_cons, not_or] at hw
      cases cs with
      | nil => simp [closing, List.isPrefixOf, Ne.symm hw.1]
      | cons c cs => simp [List.isPrefixOf, ih hw.2]

theorem isLookAround_continues (h : Continues cs ds) : isLookAround ds = isLookAround cs := by
  simp [isLookAround, isPrefixOf_continues h]

/-- What the second text alone makes of the bracket leaves nothing that closes a group. -/
def Past (p : Reading × List Char) : Prop := Beyond p.2 ∨ AtBrace p.1.flags p.2

theorem readGroup?_eq_readFlags? (hp : ∀ cs', cs ≠ 'P' :: '<' :: cs') (hl : ∀ cs', cs ≠ '<' :: cs') :
    r.readGroup? ('?' :: cs) = (r.flags.readFlags? [] true cs).bind fun p =>
      (r.applyFlags? p.1).bind fun r => some (r, p.2) := by
  unfold readGroup?
  split
  · next hm =>
    cases hm
    exact absurd rfl (hp _)
  · next hm =>
    cases hm
    exact absurd rfl (hl _)
  · next hm =>
    cases hm
    rfl
  · next hm => exact absurd rfl (hm _)

theorem readGroup?_eq_openGroup (h : ∀ cs', cs ≠ '?' :: cs') :
    r.readGroup? cs = some (r.openGroup r.flags, cs) := by
  unfold readGroup?
  split
  · exact absurd rfl (h _)
  · exact absurd rfl (h _)
  · exact absurd rfl (h _)
  · rfl

theorem readFlags?_follows (r : Reading) (h : Continues cs ds) :
    Follows (Beside Continues) Past
      ((r.flags.readFlags? [] true cs).bind fun p => (r.applyFlags? p.1).bind fun r => some (r, p.2))
      ((r.flags.readFlags? [] true ds).bind fun p => (r.applyFlags? p.1).bind fun r =>
        some (r, p.2)) := by
  refine (r.flags.readFlags?_follows [] true h).bind ?_ ?_
  · rintro ⟨o, a⟩ ⟨_, b⟩ ⟨rfl, ht⟩
    exact Follows.bind_same _ fun r => .both ⟨rfl, ht⟩
  · rintro ⟨o, b⟩ hb
    refine Follows.of_none fun p hp => ?_
    obtain ⟨r', -, hp⟩ := Option.bind_eq_some_iff.mp hp
    cases hp
    exact Or.inl hb

theorem readGroup?_follows (r : Reading) (h : Continues cs ds) :
    Follows (Beside Continues) Past (r.readGroup? cs) (r.readGroup? ds) := by
  rcases h.byHead (c := '?') (by decide) with ⟨a, b, rfl, rfl, ht⟩ | ⟨ha, hb⟩
  · rcases ht.byHead (c := '<') (by decide) with ⟨a, b, rfl, rfl, ht'⟩ | ⟨hla, hlb⟩
    · exact (r.openNamed?_follows ht').of_never
    · by_cases hp : ∃ a', a = 'P' :: '<' :: a'
      · obtain ⟨a, rfl⟩ := hp
        obtain ⟨b, rfl, ht'⟩ := ht.cons
        obtain ⟨b, rfl, ht''⟩ := ht'.cons
        exact (r.openNamed?_follows ht'').of_never
      · have hpa : ∀ a', a ≠ 'P' :: '<' :: a' := fun a' ha => hp ⟨a', ha⟩
        have hpb : ∀ b', b ≠ 'P' :: '<' :: b' := by
          rintro b' rfl
          rcases ht.byHead (c := 'P') (by decide) with ⟨a, b, rfl, hb, ht'⟩ | ⟨-, hb⟩
          · cases hb
            rcases ht'.byHead (c := '<') (by decide) with ⟨a, b, rfl, -, -⟩ | ⟨-, hb⟩
            · exact hpa _ rfl
            · exact hb _ rfl
          · exact hb _ rfl
        rw [readGroup?_eq_readFlags? hpa hla, readGroup?_eq_readFlags? hpb hlb]
        exact r.readFlags?_follows ht
  · rw [readGroup?_eq_openGroup ha, readGroup?_eq_openGroup hb]
    exact .both ⟨rfl, h⟩

theorem readOpen?_follows (r : Reading) (h : Continues cs ds) :
    Follows (Beside Continues) Past (r.readOpen? cs) (r.readOpen? ds) := by
  have hs := h.skip r.flags
  unfold readOpen?
  dsimp only
  rw [isLookAround_continues hs]
  split_ifs
  · exact .neither
  · exact r.readGroup?_follows hs

/-- The characters that begin neither an item of their own nor an escape. -/
def operators : List Char := ['(', ')', '|', '[', '?', '*', '+', '{']

theorem step?_eq_readSingle? {c : Char} (hc : c ∉ operators) :
    r.step? (c :: cs) = (r.flags.readSingle? (c :: cs)).map fun p => (r.add p.1, p.2) := by
  unfold step?
  dsimp only
  split
  iterate 8 exact absurd (by decide) hc
  rfl

theorem step?_follows (r : Reading) (c : Char) (h : Continues cs ds) :
    Follows (Beside Continues) Past (r.step? (c :: cs)) (r.step? (c :: ds)) := by
  have hr : ∀ least most, Follows (Beside Continues) Past
      ((r.repeat? least most).map (·, dropLazy cs)) ((r.repeat? least most).map (·, dropLazy ds)) :=
    fun least most => Follows.map_same _ fun r => ⟨rfl, h.dropLazy⟩
  by_cases hc : c ∈ operators
  · simp only [operators, List.mem_cons, List.not_mem_nil, or_false] at hc
    rcases hc with rfl | rfl | rfl | rfl | rfl | rfl | rfl | rfl
    · exact r.readOpen?_follows h
    · exact Follows.map_same r.closeGroup? fun r => ⟨rfl, h⟩
    · exact .both ⟨rfl, h⟩
    · refine (r.flags.readBracket?_follows h).map ?_ fun _ => False.elim
      rintro ⟨c, a⟩ ⟨_, b⟩ ⟨rfl, ht⟩
      exact ⟨rfl, ht⟩
    · exact hr 0 (some 1)
    · exact hr 0 none
    · exact hr 1 none
    · refine (r.flags.readCounts?_follows h).bind ?_ fun _ => False.elim
      rintro ⟨counts, a⟩ ⟨_, b⟩ ⟨rfl, ht⟩
      exact Follows.bind_same _ fun r => .both ⟨rfl, ht.dropLazy⟩
  · rw [step?_eq_readSingle? hc, step?_eq_readSingle? hc]
    refine (r.flags.readSingle?_follows c h).map ?_ fun p hp => hp
    rintro ⟨e, a⟩ ⟨_, b⟩ ⟨rfl, ht⟩
    exact ⟨rfl, ht⟩

end Reading

end AuditTrail.Pattern.Regex
