import AuditTrail.IndexTemplate
import Mathlib.Data.List.Chain

/-! # The blocks of a template

A template falls into blocks, in each of which one character is repeated as often as it stands
there. What a block stands for depends on its character, on its length and on whether the quotes
before it leave it quoted.
-/

namespace AuditTrail.IndexTemplate

/-- A character that is repeated. -/
structure Block where
  char : Char
  length : Nat
  /-- Whether an odd number of quotes stands before the block. -/
  quoted : Bool
deriving DecidableEq, Repr

namespace Block

def chars (b : Block) : List Char := List.replicate b.length b.char

/-- Whether a block consists of letters that are not quoted. -/
def isLetters (b : Block) : Bool := b.char.isAlpha && !b.quoted

/-- Whether a block of letters can be cut into date fields. -/
def isCut (b : Block) : Bool :=
  match b.char with
  | 'y' | 'M' | 'd' | 'H' | 'm' | 's' => b.length % 2 == 0
  | 'Y' => b.length % 4 == 0
  | _ => false

/-- The date fields of a block of letters that can be cut. -/
def fields (b : Block) : List DateField :=
  match b.char with
  | 'y' => List.replicate (b.length / 4) .year ++ List.replicate (b.length % 4 / 2) .yearOfCentury
  | 'Y' => List.replicate (b.length / 4) .year
  | 'M' => List.replicate (b.length / 2) .month
  | 'd' => List.replicate (b.length / 2) .day
  | 'H' => List.replicate (b.length / 2) .hour
  | 'm' => List.replicate (b.length / 2) .minute
  | 's' => List.replicate (b.length / 2) .second
  | _ => []

/-- What a block of an accepted template stands for. -/
def parts (b : Block) : List Part :=
  if b.char = '\'' then (List.replicate (b.length / 2) '\'').map .literal
  else if b.isLetters then b.fields.map .date
  else b.chars.map .literal

/-- Whether what follows a block is quoted. -/
def quotesAfter (b : Block) : Bool :=
  if b.char = '\'' then b.quoted != (b.length % 2 == 1) else b.quoted

end Block

/-- The blocks of a text, of which the start is quoted or not. -/
def blocksFrom (quoted : Bool) : List Char → List Block
  | [] => []
  | c :: cs =>
    match blocksFrom (if c = '\'' then !quoted else quoted) cs with
    | [] => [⟨c, 1, quoted⟩]
    | b :: bs => if b.char = c then ⟨c, b.length + 1, quoted⟩ :: bs else ⟨c, 1, quoted⟩ :: b :: bs

/-- The blocks of a template. -/
def blocks (text : String) : List Block := blocksFrom false text.toList

/-- A text that falls into blocks as long as can be, and what is quoted of it. -/
structure IsCutInto (cs : List Char) (bs : List Block) : Prop where
  chars : bs.flatMap Block.chars = cs
  length_pos : ∀ b ∈ bs, 0 < b.length
  longest : bs.IsChain fun a b => a.char ≠ b.char
  quoted : ∀ before b after, bs = before ++ b :: after →
    (b.quoted = true ↔ (before.flatMap Block.chars).count '\'' % 2 = 1)

/-- Blocks one after the other, told from the first one on. -/
inductive Follow : Bool → List Block → Prop
  | nil (q : Bool) : Follow q []
  | cons {b : Block} {bs : List Block} : 0 < b.length → (∀ a ∈ bs.head?, a.char ≠ b.char) →
    Follow b.quotesAfter bs → Follow b.quoted (b :: bs)

theorem odd_add (m n : Nat) : ((m + n) % 2 == 1) = ((m % 2 == 1) != (n % 2 == 1)) := by
  rcases Nat.mod_two_eq_zero_or_one m with hm | hm <;>
    rcases Nat.mod_two_eq_zero_or_one n with hn | hn <;> simp [Nat.add_mod, hm, hn]

theorem follow_blocksFrom (q : Bool) (cs : List Char) : Follow q (blocksFrom q cs) := by
  induction cs generalizing q with
  | nil => exact .nil q
  | cons c cs ih =>
    have hf := ih (if c = '\'' then !q else q)
    unfold blocksFrom
    split
    · next h => exact .cons (b := ⟨c, 1, q⟩) Nat.one_pos (by simp) (.nil _)
    · next b bs h =>
      rw [h] at hf
      generalize hq : (if c = '\'' then !q else q) = q' at hf
      obtain _ | ⟨hl, hn, ht⟩ := hf
      split
      · next hc =>
        refine .cons (b := ⟨c, b.length + 1, q⟩) (Nat.succ_pos _) (by simpa [hc] using hn) ?_
        suffices he : Block.quotesAfter ⟨c, b.length + 1, q⟩ = b.quotesAfter from he ▸ ht
        subst hc
        unfold Block.quotesAfter
        by_cases hb : b.char = '\''
        · rw [if_pos hb] at hq
          simp only [hb, ← hq, if_true, odd_add]
          cases q <;> simp
        · rw [if_neg hb] at hq
          simp [hb, hq]
      · next hc =>
        refine .cons (b := ⟨c, 1, q⟩) Nat.one_pos (by simpa using hc) ?_
        suffices he : Block.quotesAfter ⟨c, 1, q⟩ = b.quoted from he ▸ .cons hl hn ht
        rw [← hq]
        unfold Block.quotesAfter
        split <;> simp

theorem flatMap_chars_blocksFrom (q : Bool) (cs : List Char) :
    (blocksFrom q cs).flatMap Block.chars = cs := by
  induction cs generalizing q with
  | nil => rfl
  | cons c cs ih =>
    have hf := ih (if c = '\'' then !q else q)
    unfold blocksFrom
    split
    · next h =>
      rw [h] at hf
      rw [← hf]
      rfl
    · next b bs h =>
      rw [h] at hf
      rw [← hf]
      split
      · next hc => simp [Block.chars, hc, List.replicate_succ]
      · simp [Block.chars]

theorem Block.quotesAfter_eq (b : Block) :
    b.quotesAfter = (b.quoted != (b.chars.count '\'' % 2 == 1)) := by
  unfold quotesAfter chars
  split
  · next h => rw [h, List.count_replicate_self]
  · next h => simp [List.count_replicate, h]

namespace Follow

variable {q : Bool} {bs : List Block}

theorem length_pos (h : Follow q bs) : ∀ b ∈ bs, 0 < b.length := by
  induction h with
  | nil => simp
  | cons hl _ _ ih => exact List.forall_mem_cons.mpr ⟨hl, ih⟩

theorem isChain (h : Follow q bs) : bs.IsChain fun a b => a.char ≠ b.char := by
  induction h with
  | nil => exact .nil
  | cons _ hn _ ih => exact List.isChain_cons.mpr ⟨fun a ha => (hn a ha).symm, ih⟩

theorem quoted_eq {before after : List Block} {b : Block}
    (h : Follow q (before ++ b :: after)) :
    b.quoted = (q != ((before.flatMap Block.chars).count '\'' % 2 == 1)) := by
  induction before generalizing q with
  | nil =>
    cases h
    simp
  | cons a before ih =>
    cases h with
    | cons _ _ ht =>
      rw [ih ht, Block.quotesAfter_eq, List.flatMap_cons, List.count_append, odd_add,
        Bool.bne_assoc]

end Follow

theorem isCutInto_blocks (text : String) : IsCutInto text.toList (blocks text) where
  chars := flatMap_chars_blocksFrom false text.toList
  length_pos := (follow_blocksFrom false text.toList).length_pos
  longest := (follow_blocksFrom false text.toList).isChain
  quoted before b after h := by
    have hf : Follow false (before ++ b :: after) := h ▸ follow_blocksFrom false text.toList
    rw [hf.quoted_eq]
    simp

end AuditTrail.IndexTemplate
