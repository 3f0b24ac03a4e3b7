import AuditTrail.Proofs.Pattern.Regex.Progress
import Mathlib.Data.List.TakeWhile

/-! # Reading a text that goes on

The body of an anchored text is followed by a bracket and an anchor. Every reading function makes
the same of the body whether they follow it or not, apart from two things: a comment at the end of
the body skips them, and what the body leaves unfinished may take the bracket for its end.
-/

namespace AuditTrail.Pattern.Regex

/-! ## Texts and results side by side -/

/-- What follows the body of an anchored text. -/
def closing : List Char := [')', '$']

/-- The second text is the first with the bracket and the anchor after it, or both are at their end
since these were skipped. -/
inductive Continues : List Char → List Char → Prop
  | on (cs : List Char) : Continues cs (cs ++ closing)
  | skipped : Continues [] []

/-- Results that agree, or that only the second text has; `E` compares the former, and `P` holds of
the latter. -/
inductive Follows {α : Type} (E : α → α → Prop) (P : α → Prop) : Option α → Option α → Prop
  | both {x y : α} : E x y → Follows E P (some x) (some y)
  | neither : Follows E P none none
  | past {y : α} : P y → Follows E P none (some y)

/-- Results that are the same but for what is left to read. -/
def Beside {α β : Type} (E : β → β → Prop) (x y : α × β) : Prop := x.1 = y.1 ∧ E x.2 y.2

/-- Nothing that only the second text has. -/
def Never {α : Type} (_ : α) : Prop := False

/-- What is left starts after the bracket. -/
def Beyond (rest : List Char) : Prop := rest <:+ ['$']

namespace Follows

variable {α β : Type} {E : α → α → Prop} {P : α → Prop} {E' : β → β → Prop} {P' : β → Prop}
  {a b : Option α}

theorem of_none (h : ∀ y, b = some y → P y) : Follows E P none b := by
  cases b with
  | none => exact .neither
  | some y => exact .past (h y rfl)

theorem of_never (h : Follows E Never a b) : Follows E P a b := by
  cases h with
  | both hxy => exact .both hxy
  | neither => exact .neither
  | past hy => exact hy.elim

theorem imp_past {Q : α → Prop} (h : Follows E P a b) (hP : ∀ y, P y → Q y) : Follows E Q a b := by
  cases h with
  | both hxy => exact .both hxy
  | neither => exact .neither
  | past hy => exact .past (hP _ hy)

theorem bind {f g : α → Option β} (h : Follows E P a b)
    (hE : ∀ x y, E x y → Follows E' P' (f x) (g y)) (hP : ∀ y, P y → Follows E' P' none (g y)) :
    Follows E' P' (a.bind f) (b.bind g) := by
  cases h with
  | both hxy => exact hE _ _ hxy
  | neither => exact .neither
  | past hy => exact hP _ hy

theorem map {f g : α → β} (h : Follows E P a b) (hE : ∀ x y, E x y → E' (f x) (g y))
    (hP : ∀ y, P y → P' (g y)) : Follows E' P' (a.map f) (b.map g) := by
  cases h with
  | both hxy => exact .both (hE _ _ hxy)
  | neither => exact .neither
  | past hy => exact .past (hP _ hy)

theorem bind_same {f g : α → Option β} (a : Option α) (h : ∀ x, Follows E' P' (f x) (g x)) :
    Follows E' P' (a.bind f) (a.bind g) := by
  cases a with
  | none => exact .neither
  | some x => exact h x

theorem map_same {f g : α → β} (a : Option α) (h : ∀ x, E' (f x) (g x)) :
    Follows E' P' (a.map f) (a.map g) := by
  cases a with
  | none => exact .neither
  | some x => exact .both (h x)

end Follows

variable {flags : Flags} {cs ds rest : List Char}

namespace Continues

theorem cons {c : Char} (h : Continues (c :: cs) ds) : ∃ ds', ds = c :: ds' ∧ Continues cs ds' := by
  cases h with
  | on => exact ⟨cs ++ closing, rfl, .on cs⟩

theorem byHead {c : Char} (h : Continues cs ds) (hc : c ≠ ')') :
    (∃ cs' ds', cs = c :: cs' ∧ ds = c :: ds' ∧ Continues cs' ds') ∨
      (∀ cs', cs ≠ c :: cs') ∧ ∀ ds', ds ≠ c :: ds' := by
  cases h with
  | skipped => simp
  | on =>
    cases cs with
    | nil => simp [closing, hc.symm]
    | cons d cs =>
      by_cases hd : d = c
      · subst hd
        exact Or.inl ⟨cs, cs ++ closing, rfl, rfl, .on cs⟩
      · simp [hd]

theorem head?_beq {c : Char} (h : Continues cs ds) (hc : c ≠ ')') :
    (ds.head? == some c) = (cs.head? == some c) := by
  cases h with
  | skipped => rfl
  | on =>
    cases cs with
    | nil => simpa [closing] using hc.symm
    | cons => rfl

theorem upTo {c : Char} (h : Continues cs ds) (hc : c ∉ closing) :
    (∃ cs' ds', ds.takeWhile (· != c) = cs.takeWhile (· != c) ∧
      cs.dropWhile (· != c) = c :: cs' ∧ ds.dropWhile (· != c) = c :: ds' ∧ Continues cs' ds') ∨
      cs.dropWhile (· != c) = [] ∧ ds.dropWhile (· != c) = [] := by
  cases h with
  | skipped => exact Or.inr ⟨rfl, rfl⟩
  | on =>
    induction cs with
    | nil =>
      refine Or.inr ⟨rfl, List.dropWhile_eq_nil_iff.mpr fun d hd => ?_⟩
      rw [bne_iff_ne]
      rintro rfl
      exact hc hd
    | cons d cs ih =>
      by_cases hd : d = c
      · subst hd
        exact Or.inl ⟨cs, cs ++ closing, by simp, by simp, by simp, .on cs⟩
      · simpa [hd] using ih

theorem dropWhile (h : Continues cs ds) {p : Char → Bool} (hp : p ')' = false) :
    Continues (cs.dropWhile p) (ds.dropWhile p) := by
  cases h with
  | skipped => exact .skipped
  | on =>
    induction cs with
    | nil =>
      have hc : closing.dropWhile p = closing := by simp [closing, hp]
      rw [List.nil_append, hc]
      exact .on []
    | cons c cs ih =>
      rw [List.cons_append, List.dropWhile_cons, List.dropWhile_cons]
      split
      · exact ih
      · exact .on (c :: cs)

end Continues

theorem mem_closing {c : Char} : c ∈ closing ↔ c = ')' ∨ c = '$' := by
  simp [closing]

theorem beyond_anchor : Beyond ['$'] := List.suffix_rfl

theorem Beyond.suffix_closing (h : Beyond rest) : rest <:+ closing :=
  h.trans (List.suffix_cons _ _)

theorem Beyond.eq_nil_or (h : Beyond rest) : rest = [] ∨ rest = ['$'] := by
  rcases List.suffix_cons_iff.mp h with h | h
  · exact Or.inr h
  · exact Or.inl (List.suffix_nil.mp h)

/-! ## Blanks, words and numbers -/

theorem skipSpace_continues (inComment : Bool) (cs : List Char) :
    Continues (skipSpace inComment cs) (skipSpace inComment (cs ++ closing)) := by
  induction cs generalizing inComment with
  | nil =>
    cases inComment with
    | false => exact .on []
    | true => exact .skipped
  | cons c cs ih =>
    rw [List.cons_append, skipSpace, skipSpace]
    split_ifs
    · exact ih _
    · exact ih _
    · exact ih _
    · exact .on (c :: cs)

theorem Continues.skip (h : Continues cs ds) (flags : Flags) :
    Continues (flags.skip cs) (flags.skip ds) := by
  unfold Flags.skip
  split
  · cases h with
    | on => exact skipSpace_continues false cs
    | skipped => exact .skipped
  · exact h

/-- Words end at the same character, or the second goes on to the bracket or the anchor. -/
theorem Flags.readUntil_follows {ends : Char → Bool} {done : List Char} {n m : Nat}
    (h : Continues cs ds) (hn : cs.length < n) (hm : ds.length < m) :
    Follows (Beside fun a b => a.head? = b.head? ∧ Continues a.tail b.tail)
      (fun p => ∃ c ∈ closing, p.2.head? = some c ∧ ends c = true)
      (flags.readUntil ends done n cs) (flags.readUntil ends done m ds) := by
  induction n generalizing cs ds done m with
  | zero => exact absurd hn (Nat.not_lt_zero _)
  | succ n ih =>
    obtain ⟨m, rfl⟩ := Nat.exists_eq_add_one_of_ne_zero (Nat.ne_zero_of_lt hm)
    cases h with
    | skipped => exact .neither
    | on =>
      cases cs with
      | nil =>
        refine Follows.of_none fun p hp => ?_
        obtain ⟨hs, c, hc, he⟩ := flags.readUntil_suffix hp
        exact ⟨c, hs.subset (List.mem_of_mem_head? hc), hc, he⟩
      | cons c cs =>
        rw [List.cons_append, Flags.readUntil, Flags.readUntil]
        split
        · exact .both ⟨rfl, rfl, .on cs⟩
        · have hl := (flags.skip_suffix cs).length_le
          have hl' := (flags.skip_suffix (cs ++ closing)).length_le
          simp only [List.cons_append, List.length_cons] at hn hm
          exact ih ((Continues.on cs).skip flags) (by omega) (by omega)

theorem Flags.readBraced?_follows (flags : Flags) (h : Continues cs ds) :
    Follows (Beside Continues) Never (flags.readBraced? cs) (flags.readBraced? ds) := by
  have hl := (flags.skip_suffix cs).length_le
  have hl' := (flags.skip_suffix ds).length_le
  refine (Flags.readUntil_follows (h.skip flags) (by omega) (by omega)).map ?_ ?_
  · rintro p q ⟨hw, -, ht⟩
    exact ⟨hw, ht⟩
  · rintro p ⟨c, hc, -, he⟩
    rcases mem_closing.mp hc with rfl | rfl <;> cases he

theorem Flags.readHexDigits_follows (flags : Flags) {done : List Char} {n : Nat} (h : Continues cs ds) :
    Follows (Beside Continues) Never (flags.readHexDigits done n cs)
      (flags.readHexDigits done n ds) := by
  induction n generalizing cs ds done with
  | zero => exact .both ⟨rfl, h⟩
  | succ n ih =>
    cases h with
    | skipped => exact .neither
    | on =>
      cases cs with
      | nil => exact .neither
      | cons c cs =>
        rw [List.cons_append, Flags.readHexDigits, Flags.readHexDigits]
        split_ifs
        · exact ih ((Continues.on cs).skip flags)
        · exact .neither

/-! ## Escapes -/

theorem Flags.readHex?_follows (flags : Flags) {letter : Char} (h : Continues cs ds) :
    Follows (Beside Continues) Never (flags.readHex? letter cs) (flags.readHex? letter ds) := by
  rcases h.byHead (c := '{') (by decide) with ⟨cs, ds, rfl, rfl, ht⟩ | ⟨hc, hd⟩
  · refine (flags.readBraced?_follows ht).bind ?_ fun _ => False.elim
    rintro ⟨digits, a⟩ ⟨_, b⟩ ⟨rfl, h⟩
    dsimp only
    split_ifs
    · exact .neither
    · exact Follows.bind_same _ fun c => .both ⟨rfl, h.skip flags⟩
  · simp only [Flags.readHex?]
    refine (flags.readHexDigits_follows h).bind ?_ fun _ => False.elim
    rintro ⟨digits, a⟩ ⟨_, b⟩ ⟨rfl, h⟩
    exact Follows.bind_same _ fun c => .both ⟨rfl, h⟩

theorem Flags.readProperty?_follows (flags : Flags) {negated : Bool} (h : Continues cs ds) :
    Follows (Beside Continues) (fun p => Beyond p.2) (flags.readProperty? negated cs)
      (flags.readProperty? negated ds) := by
  have hn : flags.readProperty? negated [] = none := by simp [Flags.readProperty?]
  cases h with
  | skipped =>
    rw [hn]
    exact .neither
  | on =>
    cases cs with
    | nil =>
      rw [hn]
      exact Follows.of_none fun p hp => flags.readProperty?_suffix hp
    | cons c cs =>
      cases hu : flags.unicode with
      | false =>
        simp only [Flags.readProperty?, hu]
        exact .neither
      | true =>
        by_cases hb : c = '{'
        · subst hb
          simp only [Flags.readProperty?, hu, List.cons_append]
          refine (flags.readBraced?_follows (.on cs)).bind ?_ fun _ => False.elim
          rintro ⟨name, a⟩ ⟨_, b⟩ ⟨rfl, h⟩
          exact Follows.bind_same _ fun p => .both ⟨rfl, h⟩
        · simp only [Flags.readProperty?, hu, List.cons_append, Bool.not_true, Bool.false_eq_true,
            if_false]
          split_ifs
          · exact .neither
          · exact Follows.map_same _ fun p => ⟨rfl, (Continues.on cs).skip flags⟩

/-- A brace before the bracket, which may follow a word assertion there. -/
def AtBrace (flags : Flags) (rest : List Char) : Prop :=
  ∃ blanks, rest = '{' :: blanks ∧ flags.skip blanks = closing

theorem Flags.readWordLook?_follows (flags : Flags) (h : Continues cs ds) :
    Follows (Beside Continues) (fun p => AtBrace flags p.2) (flags.readWordLook? cs)
      (flags.readWordLook? ds) := by
  rcases h.byHead (c := '{') (by decide) with ⟨cs, ds, rfl, rfl, ht⟩ | ⟨hc, hd⟩
  · unfold Flags.readWordLook?
    have hs := ht.skip flags
    generalize hc : flags.skip cs = a at hs
    generalize hd : flags.skip ds = b at hs
    cases hs with
    | skipped => 
      simp only [hc, hd]
      exact .neither
    | on =>
      cases a with
      | nil => 
        simp only [hc, hd]
        exact .past ⟨ds, rfl, hd⟩
      | cons c more =>
        simp only [hc, hd, List.cons_append]
        split_ifs
        · refine (Flags.readUntil_follows (.on (c :: more)) (by simp) (by simp [closing])).bind ?_ ?_
          · rintro ⟨name, a⟩ ⟨_, b⟩ ⟨rfl, hh, h⟩
            dsimp only at hh ⊢
            rw [hh]
            split_ifs
            · exact .neither
            · exact Follows.bind_same _ fun w => .both ⟨rfl, h⟩
          · rintro ⟨name, b⟩ ⟨c, hc, hh, -⟩
            dsimp only at hh ⊢
            rw [hh, if_pos]
            · exact .neither
            · rcases mem_closing.mp hc with rfl | rfl <;> rfl
        · exact .both ⟨rfl, h⟩
  · simp only [Flags.readWordLook?]
    exact .both ⟨rfl, h⟩

theorem Flags.readEscape?_follows (flags : Flags) (h : Continues cs ds) :
    Follows (Beside Continues)
      (fun p => Beyond p.2 ∨ (∃ l, p.1 = .look l) ∧ AtBrace flags p.2)
      (flags.readEscape? cs) (flags.readEscape? ds) := by
  cases h with
  | skipped => exact .neither
  | on =>
    cases cs with
    | nil => exact .past (Or.inl beyond_anchor)
    | cons c cs =>
      have h := Continues.on cs
      simp only [List.cons_append, Flags.readEscape?]
      split_ifs
      · exact .neither
      · exact (flags.readHex?_follows (h.skip flags)).of_never
      · exact (flags.readProperty?_follows (h.skip flags)).imp_past fun _ => Or.inl
      · exact .both ⟨rfl, h⟩
      · exact .both ⟨rfl, h⟩
      · exact .both ⟨rfl, h⟩
      · split
        · exact .both ⟨rfl, h⟩
        · split
          case h_3 =>
            refine (flags.readWordLook?_follows h).map ?_ fun p hp => Or.inr ⟨⟨_, rfl⟩, hp⟩
            rintro p q ⟨hw, hr⟩
            exact ⟨by rw [hw], hr⟩
          case h_7 => exact .neither
          all_goals exact .both ⟨rfl, h⟩

end AuditTrail.Pattern.Regex
