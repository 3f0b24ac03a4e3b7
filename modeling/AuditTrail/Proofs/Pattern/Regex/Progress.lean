import AuditTrail.Pattern.Regex.Reader
import Mathlib.Data.List.Infix

/-! # Reading goes forward

Every reading function leaves an end of the text that it is given, and every step of the reader
takes a character at least. So the reader has steps enough to come to the end of the text, and
what it has read by then can be told without counting them.
-/

namespace AuditTrail.Pattern.Regex

open Text (CharClass isBlank)

variable {flags : Flags} {cs rest : List Char}

theorem length_lt_of_suffix_tail {left : List Char} (hs : left <:+ cs) (hl : left ≠ [])
    (h : rest <:+ left.tail) : rest.length < cs.length := by
  have := h.length_le
  have := hs.length_le
  have := List.length_pos_iff.mpr hl
  rw [List.length_tail] at *
  omega

/-! ## Blanks, words and numbers -/

theorem skipSpace_suffix (inComment : Bool) (cs : List Char) : skipSpace inComment cs <:+ cs := by
  fun_induction skipSpace inComment cs with
  | case1 | case5 => exact List.suffix_rfl
  | case2 c rest ih | case3 _ c rest _ _ ih | case4 _ rest _ _ ih =>
    exact ih.trans (List.suffix_cons _ _)

theorem Flags.skip_suffix (flags : Flags) (cs : List Char) : flags.skip cs <:+ cs := by
  unfold Flags.skip
  split
  · exact skipSpace_suffix false cs
  · exact List.suffix_rfl

theorem Flags.skip_of_not_verbose (h : flags.verbose = false) (cs : List Char) :
    flags.skip cs = cs := by
  rw [Flags.skip, h]
  rfl

theorem Flags.next_suffix (flags : Flags) (cs : List Char) : flags.next cs <:+ cs.tail :=
  flags.skip_suffix cs.tail

theorem Flags.readUntil_suffix {ends : Char → Bool} {done word : List Char} {n : Nat}
    (h : flags.readUntil ends done n cs = some (word, rest)) :
    rest <:+ cs ∧ ∃ c, rest.head? = some c ∧ ends c = true := by
  fun_induction Flags.readUntil flags ends done n cs with
  | case1 | case2 => cases h
  | case3 done n c more hc =>
    cases h
    exact ⟨List.suffix_rfl, c, rfl, hc⟩
  | case4 done n c more _ ih =>
    obtain ⟨hs, hc⟩ := ih h
    exact ⟨hs.trans ((flags.skip_suffix more).trans (List.suffix_cons _ _)), hc⟩

theorem Flags.readHexDigits_suffix {done word : List Char} {n : Nat}
    (h : flags.readHexDigits done n cs = some (word, rest)) : rest <:+ cs := by
  induction n generalizing done cs with
  | zero =>
    cases h
    exact List.suffix_rfl
  | succ n ih =>
    unfold Flags.readHexDigits at h
    split at h
    · cases h
    · split_ifs at h
      exact (ih h).trans ((flags.next_suffix _).trans (List.suffix_cons _ _))

/-! ## Escapes -/

theorem Flags.readBraced?_suffix {word : List Char}
    (h : flags.readBraced? cs = some (word, rest)) : rest <:+ cs := by
  obtain ⟨⟨word, left⟩, hr, h⟩ := Option.map_eq_some_iff.mp h
  cases h
  exact left.tail_suffix.trans ((flags.readUntil_suffix hr).1.trans (flags.skip_suffix cs))

theorem Flags.readHex?_suffix {letter : Char} {a : Atom}
    (h : flags.readHex? letter cs = some (a, rest)) : rest <:+ cs := by
  unfold Flags.readHex? at h
  split at h
  · simp only [Option.bind_eq_bind, Option.bind_eq_some_iff, Prod.exists] at h
    obtain ⟨digits, left, hr, h⟩ := h
    split_ifs at h
    obtain ⟨c, -, h⟩ := Option.bind_eq_some_iff.mp h
    cases h
    exact (flags.skip_suffix left).trans ((flags.readBraced?_suffix hr).trans (List.suffix_cons _ _))
  · simp only [Option.bind_eq_bind, Option.bind_eq_some_iff, Prod.exists] at h
    obtain ⟨digits, left, hr, c, -, h⟩ := h
    cases h
    exact flags.readHexDigits_suffix hr

theorem Flags.readProperty?_suffix {negated : Bool} {a : Atom}
    (h : flags.readProperty? negated cs = some (a, rest)) : rest <:+ cs.tail := by
  unfold Flags.readProperty? at h
  split_ifs at h
  split at h
  · cases h
  · simp only [Option.bind_eq_bind, Option.bind_eq_some_iff, Prod.exists] at h
    obtain ⟨name, left, hr, c, unequal, -, h⟩ := h
    cases h
    exact flags.readBraced?_suffix hr
  · split_ifs at h
    obtain ⟨p, -, h⟩ := Option.map_eq_some_iff.mp h
    cases h
    exact flags.next_suffix _

theorem Flags.readWordLook?_suffix {w : Option WordLook}
    (h : flags.readWordLook? cs = some (w, rest)) : rest <:+ cs := by
  unfold Flags.readWordLook? at h
  split at h
  · next more =>
    split at h
    · cases h
    · next c more' hm =>
      split_ifs at h
      · simp only [Option.bind_eq_bind, Option.bind_eq_some_iff, Prod.exists] at h
        obtain ⟨name, left, hr, h⟩ := h
        split_ifs at h
        obtain ⟨w, -, h⟩ := Option.bind_eq_some_iff.mp h
        cases h
        have hs := (flags.readUntil_suffix hr).1
        exact left.tail_suffix.trans <|
          hs.trans <| hm ▸ (flags.skip_suffix more).trans (List.suffix_cons _ _)
      · cases h
        exact List.suffix_rfl
  · cases h
    exact List.suffix_rfl

theorem Flags.readEscape?_suffix {a : Atom} (h : flags.readEscape? cs = some (a, rest)) :
    rest <:+ cs.tail := by
  unfold Flags.readEscape? at h
  split at h
  · cases h
  · next c more =>
    dsimp only [List.tail_cons] at h ⊢
    split_ifs at h
    · exact (flags.readHex?_suffix h).trans (flags.skip_suffix more)
    · exact (flags.readProperty?_suffix h).trans ((List.tail_suffix _).trans (flags.skip_suffix more))
    iterate 3
      cases h
      exact List.suffix_rfl
    · split at h
      · cases h
        exact List.suffix_rfl
      · split at h
        case h_3 =>
          obtain ⟨p, hp, h⟩ := Option.map_eq_some_iff.mp h
          cases h
          exact flags.readWordLook?_suffix hp
        case h_7 => cases h
        all_goals
          cases h
          exact List.suffix_rfl

/-! ## Classes -/

theorem Flags.readItem?_suffix {a : Atom} (h : flags.readItem? cs = some (a, rest)) :
    rest <:+ cs.tail := by
  unfold Flags.readItem? at h
  split at h
  · cases h
  · exact (flags.readEscape?_suffix h).trans (List.tail_suffix _)
  · cases h
    exact List.suffix_rfl

theorem Flags.readRangeFrom?_suffix {first : Atom} {o : CharClass}
    (h : flags.readRangeFrom? first cs = some (o, rest)) : rest <:+ flags.skip cs := by
  unfold Flags.readRangeFrom? at h
  split at h
  · cases h
  · next c more hm =>
    rw [hm]
    dsimp only at h
    split_ifs at h
    · obtain ⟨item, -, h⟩ := Option.map_eq_some_iff.mp h
      cases h
      exact List.suffix_rfl
    · simp only [Option.bind_eq_bind, Option.bind_eq_some_iff, Prod.exists] at h
      obtain ⟨last, left, hr, item, -, h⟩ := h
      cases h
      exact (flags.readItem?_suffix hr).trans <| (List.tail_suffix _).trans <|
        (flags.skip_suffix more).trans (List.suffix_cons _ _)

theorem Flags.readRange?_suffix {o : CharClass} (h : flags.readRange? cs = some (o, rest)) :
    rest <:+ cs.tail := by
  obtain ⟨⟨first, left⟩, hf, h⟩ := Option.bind_eq_some_iff.mp h
  exact (flags.readRangeFrom?_suffix h).trans <|
    (flags.skip_suffix left).trans (flags.readItem?_suffix hf)

theorem Flags.readHyphens_suffix (flags : Flags) (c : OpenClass) (n : Nat) (cs : List Char) :
    (flags.readHyphens c n cs).2 <:+ cs := by
  fun_induction Flags.readHyphens flags c n cs with
  | case1 c n rest ih => exact ih.trans ((flags.skip_suffix rest).trans (List.suffix_cons _ _))
  | case2 => exact List.suffix_rfl

theorem Flags.readCaret_suffix (flags : Flags) (cs : List Char) :
    (flags.readCaret cs).2 <:+ cs := by
  have hs := flags.skip_suffix cs
  unfold Flags.readCaret
  split
  · next rest hr =>
    rw [hr] at hs
    exact (flags.skip_suffix rest).trans ((List.suffix_cons _ _).trans hs)
  · exact hs

theorem Flags.readClassFront?_suffix {c : OpenClass}
    (h : flags.readClassFront? cs = some (c, rest)) : rest <:+ cs := by
  have hs := flags.readCaret_suffix cs
  unfold Flags.readClassFront? at h
  generalize flags.readCaret cs = caret at h hs
  dsimp only at h
  split_ifs at h
  obtain h := Option.some.inj h
  split at h
  · next more hm =>
    cases h
    rw [hm] at hs
    exact (flags.skip_suffix more).trans ((List.suffix_cons _ _).trans hs)
  · have hl := flags.readHyphens_suffix { negated := caret.1 } caret.2.length caret.2
    rw [h] at hl
    exact hl.trans hs

theorem readPosixName?_suffix {c : CharClass} (h : readPosixName? cs = some (c, rest)) :
    rest <:+ cs := by
  unfold readPosixName? at h
  split at h
  · next more hm =>
    obtain ⟨p, -, h⟩ := Option.map_eq_some_iff.mp h
    cases h
    exact (List.suffix_cons _ _).trans ((List.suffix_cons _ _).trans (hm ▸ List.dropWhile_suffix _))
  · cases h

theorem readPosix?_suffix {p : CharClass × Bool} (h : readPosix? cs = some (p, rest)) :
    rest <:+ cs := by
  unfold readPosix? at h
  split at h
  · obtain ⟨⟨c, left⟩, hp, h⟩ := Option.map_eq_some_iff.mp h
    cases h
    exact (readPosixName?_suffix hp).trans ((List.suffix_cons _ _).trans (List.suffix_cons _ _))
  · obtain ⟨⟨c, left⟩, hp, h⟩ := Option.map_eq_some_iff.mp h
    cases h
    exact (readPosixName?_suffix hp).trans (List.suffix_cons _ _)
  · cases h

namespace Classes

variable {c : Classes}

theorem step?_suffix {o : Classes ⊕ CharClass × Nat} (h : c.step? flags cs = some (o, rest)) :
    rest <:+ cs.tail := by
  unfold step? at h
  split at h
  · cases h
  · split at h
    · next hp =>
      obtain ⟨item, -, h⟩ := Option.map_eq_some_iff.mp h
      cases h
      exact readPosix?_suffix hp
    · obtain ⟨p, hp, h⟩ := Option.map_eq_some_iff.mp h
      cases h
      exact flags.readClassFront?_suffix hp
  · obtain ⟨all, -, h⟩ := Option.map_eq_some_iff.mp h
    cases h
    exact List.suffix_rfl
  iterate 3
    cases h
    exact List.suffix_cons _ _
  · obtain ⟨p, hp, h⟩ := Option.map_eq_some_iff.mp h
    cases h
    exact flags.readRange?_suffix hp

theorem length_lt_of_step? {o : Classes ⊕ CharClass × Nat}
    (h : c.step? flags (flags.skip cs) = some (o, rest)) : rest.length < cs.length := by
  have hc : flags.skip cs ≠ [] := by
    intro hc
    rw [hc] at h
    cases h
  exact length_lt_of_suffix_tail (flags.skip_suffix cs) hc (step?_suffix h)

theorem run?_suffix {n : Nat} {o : CharClass × Nat} (h : c.run? flags n cs = some (o, rest)) :
    rest <:+ cs := by
  induction n generalizing c cs with
  | zero => cases h
  | succ n ih =>
    rw [run?] at h
    split at h
    · next hs =>
      exact (ih h).trans ((step?_suffix hs).trans ((List.tail_suffix _).trans (flags.skip_suffix cs)))
    · next hs =>
      cases h
      exact (step?_suffix hs).trans ((List.tail_suffix _).trans (flags.skip_suffix cs))
    · cases h

end Classes

theorem Flags.readBracket?_suffix {p : Regex × Nat} (h : flags.readBracket? cs = some (p, rest)) :
    rest <:+ cs := by
  simp only [Flags.readBracket?, Option.bind_eq_bind, Option.bind_eq_some_iff, Prod.exists] at h
  obtain ⟨c, left, hf, all, depth, left', hc, h⟩ := h
  cases h
  exact (Classes.run?_suffix hc).trans (flags.readClassFront?_suffix hf)

/-! ## Single items and counts -/

theorem Flags.readSingle?_suffix {r : Regex} (h : flags.readSingle? cs = some (r, rest)) :
    rest <:+ cs.tail := by
  unfold Flags.readSingle? at h
  split at h
  · cases h
  · simp only [Option.bind_eq_bind, Option.bind_eq_some_iff, Prod.exists] at h
    obtain ⟨a, left, he, r, -, h⟩ := h
    cases h
    exact (flags.readEscape?_suffix he).trans (List.tail_suffix _)
  · obtain ⟨r, -, h⟩ := Option.map_eq_some_iff.mp h
    cases h
    exact List.suffix_rfl
  · cases h
    exact List.suffix_rfl
  · cases h
    exact List.suffix_rfl
  · obtain ⟨r, -, h⟩ := Option.map_eq_some_iff.mp h
    cases h
    exact List.suffix_rfl

theorem Flags.readDigits_suffix (flags : Flags) (done : List Char) (n : Nat) (cs : List Char) :
    (flags.readDigits done n cs).2 <:+ cs := by
  fun_induction Flags.readDigits flags done n cs with
  | case1 done n c rest _ ih =>
    exact ih.trans ((flags.skip_suffix rest).trans (List.suffix_cons _ _))
  | case2 | case3 => exact List.suffix_rfl

theorem Flags.readCount?_suffix {n : Nat} (h : flags.readCount? cs = some (n, rest)) :
    rest <:+ cs := by
  unfold Flags.readCount? at h
  dsimp only at h
  split_ifs at h
  cases h
  exact (List.dropWhile_suffix _).trans <|
    (flags.readDigits_suffix _ _ _).trans (List.dropWhile_suffix _)

theorem Flags.readMost?_suffix {least : Nat} {most : Option Nat}
    (h : flags.readMost? least cs = some (most, rest)) : rest <:+ cs := by
  unfold Flags.readMost? at h
  split at h
  · next more =>
    have hs : flags.skip more <:+ ',' :: more :=
      (flags.skip_suffix more).trans (List.suffix_cons _ _)
    split at h
    · next hm =>
      cases h
      exact hm ▸ hs
    · obtain ⟨p, hp, h⟩ := Option.map_eq_some_iff.mp h
      cases h
      exact (flags.readCount?_suffix hp).trans hs
  · cases h
    exact List.suffix_rfl

theorem Flags.readCounts?_suffix {counts : Nat × Option Nat}
    (h : flags.readCounts? cs = some (counts, rest)) : rest <:+ cs := by
  simp only [Flags.readCounts?, Option.bind_eq_bind, Option.bind_eq_some_iff, Prod.exists] at h
  obtain ⟨least, left, hl, most, left', hm, h⟩ := h
  have hs : left' <:+ cs :=
    (flags.readMost?_suffix hm).trans ((flags.readCount?_suffix hl).trans (flags.skip_suffix cs))
  split at h
  · next more =>
    split_ifs at h
    cases h
    exact (flags.skip_suffix more).trans ((List.suffix_cons _ _).trans hs)
  · cases h

theorem dropLazy_suffix (cs : List Char) : dropLazy cs <:+ cs := by
  unfold dropLazy
  split
  · exact List.suffix_cons _ _
  · exact List.suffix_rfl

/-! ## Groups -/

theorem Flags.readFlags?_suffix {seen : List Char} {on : Bool} {o : Flags × Bool × Char}
    (h : flags.readFlags? seen on cs = some (o, rest)) : rest <:+ cs.tail := by
  induction cs generalizing flags seen on with
  | nil => cases h
  | cons c more ih =>
    unfold Flags.readFlags? at h
    split_ifs at h
    · cases h
      exact List.suffix_rfl
    · exact (ih h).trans (List.tail_suffix _)
    · split at h
      · exact (ih h).trans (List.tail_suffix _)
      · cases h

theorem readName?_suffix {name : String} (h : readName? cs = some (name, rest)) : rest <:+ cs := by
  unfold readName? at h
  dsimp only at h
  split at h
  · next hd =>
    split_ifs at h
    cases h
    exact (List.suffix_cons _ _).trans (hd ▸ List.dropWhile_suffix _)
  · cases h

namespace Reading

variable {r r' r'' : Reading}

theorem openNamed?_suffix (h : r.openNamed? cs = some (r', rest)) : rest <:+ cs := by
  simp only [openNamed?, Option.bind_eq_bind, Option.bind_eq_some_iff, Prod.exists] at h
  obtain ⟨name, left, hn, h⟩ := h
  split_ifs at h
  cases h
  exact readName?_suffix hn

theorem readGroup?_suffix (h : r.readGroup? cs = some (r', rest)) : rest <:+ cs := by
  unfold readGroup? at h
  split at h
  · exact (openNamed?_suffix h).trans (List.suffix_append ['?', 'P', '<'] _)
  · exact (openNamed?_suffix h).trans (List.suffix_append ['?', '<'] _)
  · simp only [Option.bind_eq_bind, Option.bind_eq_some_iff] at h
    obtain ⟨⟨o, left⟩, hf, r', -, h⟩ := h
    cases h
    exact (Flags.readFlags?_suffix hf).trans ((List.tail_suffix _).trans (List.suffix_cons _ _))
  · cases h
    exact List.suffix_rfl

theorem readOpen?_suffix (h : r.readOpen? cs = some (r', rest)) : rest <:+ cs := by
  unfold readOpen? at h
  dsimp only at h
  split_ifs at h
  exact (readGroup?_suffix h).trans (r.flags.skip_suffix cs)

theorem step?_suffix (h : r.step? cs = some (r', rest)) : rest <:+ cs.tail := by
  unfold step? at h
  split at h
  · cases h
  · next c more =>
    dsimp only at h
    split at h
    · exact readOpen?_suffix h
    · obtain ⟨_, -, h⟩ := Option.map_eq_some_iff.mp h
      cases h
      exact List.suffix_rfl
    · cases h
      exact List.suffix_rfl
    · obtain ⟨p, hp, h⟩ := Option.map_eq_some_iff.mp h
      cases h
      exact Flags.readBracket?_suffix hp
    iterate 3
      obtain ⟨_, -, h⟩ := Option.map_eq_some_iff.mp h
      cases h
      exact dropLazy_suffix _
    · simp only [Option.bind_eq_bind, Option.bind_eq_some_iff, Prod.exists] at h
      obtain ⟨least, most, left, hc, r', -, h⟩ := h
      cases h
      exact (dropLazy_suffix _).trans (Flags.readCounts?_suffix hc)
    · obtain ⟨p, hp, h⟩ := Option.map_eq_some_iff.mp h
      cases h
      exact Flags.readSingle?_suffix hp

/-! ## Reading to the end -/

/-- What is read of a text, step by step to its end. -/
inductive Reads : Reading → List Char → Reading → Prop
  | done {r : Reading} {cs : List Char} : r.flags.skip cs = [] → Reads r cs r
  | step {r r' r'' : Reading} {cs rest : List Char} :
    r.step? (r.flags.skip cs) = some (r', rest) → Reads r' rest r'' → Reads r cs r''

theorem Reads.step_plain (hv : r.flags.verbose = false) (hs : r.step? cs = some (r', rest))
    (h : Reads r' rest r'') : Reads r cs r'' :=
  .step ((Flags.skip_of_not_verbose hv cs).symm ▸ hs) h

theorem run?_of_skip_eq_nil (h : r.flags.skip cs = []) (n : Nat) : run? r n cs = some r := by
  cases n <;> simp only [run?, h]

theorem run?_zero (h : r.flags.skip cs ≠ []) : run? r 0 cs = none := by
  obtain ⟨c, more, hc⟩ := List.exists_cons_of_ne_nil h
  unfold run?
  rw [hc]

theorem run?_succ (h : r.flags.skip cs ≠ []) (n : Nat) :
    run? r (n + 1) cs = (r.step? (r.flags.skip cs)).bind fun p => run? p.1 n p.2 := by
  obtain ⟨c, more, hc⟩ := List.exists_cons_of_ne_nil h
  conv_lhs => unfold run?
  rw [hc]
  rfl

theorem Reads.of_run? {n : Nat} (h : run? r n cs = some r'') : Reads r cs r'' := by
  induction n generalizing r cs with
  | zero =>
    by_cases hc : r.flags.skip cs = []
    · rw [run?_of_skip_eq_nil hc] at h
      cases h
      exact .done hc
    · rw [run?_zero hc] at h
      cases h
  | succ n ih =>
    by_cases hc : r.flags.skip cs = []
    · rw [run?_of_skip_eq_nil hc] at h
      cases h
      exact .done hc
    · rw [run?_succ hc] at h
      obtain ⟨⟨r', rest⟩, hs, h⟩ := Option.bind_eq_some_iff.mp h
      exact .step hs (ih h)

theorem Reads.run? {n : Nat} (h : Reads r cs r'') (hn : cs.length ≤ n) :
    r.run? n cs = some r'' := by
  induction h generalizing n with
  | done hc => exact run?_of_skip_eq_nil hc n
  | @step r r' r'' cs rest hs _ ih =>
    have hc : r.flags.skip cs ≠ [] := by
      intro hc
      rw [hc] at hs
      cases hs
    have hl := length_lt_of_suffix_tail (r.flags.skip_suffix cs) hc (step?_suffix hs)
    obtain ⟨n, rfl⟩ := Nat.exists_eq_add_one_of_ne_zero (show n ≠ 0 by omega)
    rw [run?_succ hc, hs]
    exact ih (by omega)

/-- As many steps as the text has characters are enough. -/
theorem run?_length_eq_some_iff : run? r cs.length cs = some r'' ↔ Reads r cs r'' :=
  ⟨.of_run?, fun h => h.run? (Nat.le_refl _)⟩

theorem Reads.unique {s : Reading} (h : Reads r cs s) {s' : Reading} (h' : Reads r cs s') :
    s = s' := by
  rw [← run?_length_eq_some_iff] at h h'
  exact Option.some.inj (h.symm.trans h')

end Reading

theorem ofTextWithin?_eq_some_iff {levels : Nat} {e : Regex} :
    ofTextWithin? levels cs = some e ↔ ∃ r, Reading.Reads {} cs r ∧ r.closed? levels = some e := by
  simp only [ofTextWithin?, Option.bind_eq_some_iff, Reading.run?_length_eq_some_iff]

end AuditTrail.Pattern.Regex
