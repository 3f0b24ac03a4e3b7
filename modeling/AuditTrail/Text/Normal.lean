import AuditTrail.Text.CodeGroups
import AuditTrail.Text.Property.Combining

/-! # Composed text

Text in which characters are taken apart, marks are put in order, and what belongs together is
composed again, so that texts that mean the same are the same.
-/

namespace AuditTrail.Text.Normal

/-- The order in which marks on one character stand; zero for what is no mark. -/
def combiningClass (c : Char) : Nat :=
  match Property.combiningClasses.find? fun p => p.2.contains c with
  | some p => p.1
  | none => 0

/-! ## Taking apart -/

/-- The characters with parts, and their parts. -/
def decompositions : List (List Nat) := codeGroups Property.decompositionsText

/-- The parts of a syllable of Hangul, each in its own row of letters. -/
def hangulParts (n : Nat) : List Nat :=
  let index := n - 0xAC00
  let last := index % 28
  [0x1100 + index / 588, 0x1161 + index % 588 / 28] ++ if last = 0 then [] else [0x11A7 + last]

def isHangulSyllable (n : Nat) : Bool := 0xAC00 ≤ n && n ≤ 0xD7A3

/-- The parts of a character, if it has parts. -/
def parts? (n : Nat) : Option (List Nat) :=
  if n < 0xC0 then none
  else if isHangulSyllable n then some (hangulParts n)
  else (decompositions.find? fun g => g.head? == some n).map List.tail

/-- Takes a code point apart, and its parts in turn. -/
def decomposeCode : Nat → Nat → List Nat
  | 0, n => [n]
  | depth + 1, n =>
    match parts? n with
    | none => [n]
    | some parts => parts.flatMap (decomposeCode depth)

/-- How deep parts have parts at most. -/
def decompositionDepth : Nat := 4

def decomposeChar (c : Char) : List Char :=
  (decomposeCode decompositionDepth c.toNat).map Char.ofNat

/-! ## Order -/

/-- Puts a mark behind the marks of lower classes. -/
def place (c : Char) : List Char → List Char
  | [] => [c]
  | d :: rest =>
    if combiningClass d != 0 && combiningClass d < combiningClass c then d :: place c rest
    else c :: d :: rest

def order (cs : List Char) : List Char := cs.foldr place []

def decompose (cs : List Char) : List Char := order (cs.flatMap decomposeChar)

/-! ## Composing -/

/-- The syllable of Hangul that two parts make. -/
def hangulPair? (a b : Nat) : Option Nat :=
  if 0x1100 ≤ a && a ≤ 0x1112 && 0x1161 ≤ b && b ≤ 0x1175 then
    some (0xAC00 + (a - 0x1100) * 588 + (b - 0x1161) * 28)
  else if isHangulSyllable a && (a - 0xAC00) % 28 = 0 && 0x11A8 ≤ b && b ≤ 0x11C2 then
    some (a + (b - 0x11A7))
  else none

/-- The character that two parts make. -/
def pair? (a b : Char) : Option Char :=
  match hangulPair? a.toNat b.toNat with
  | some n => some (Char.ofNat n)
  | none =>
    match decompositions.find? fun g => g.tail == [a.toNat, b.toNat] with
    | some (n :: _) =>
      if Property.compositionExclusions.contains (Char.ofNat n) then none
      else some (Char.ofNat n)
    | _ => none

/-- Composes on. `first` is what later characters may be added to, `between` the marks that stand
after it, last first. -/
def composeFrom (done : List Char) (first : Option Char) (between : List Char) :
    List Char → List Char
  | [] => (between ++ first.toList ++ done).reverse
  | c :: rest =>
    let stay : List Char :=
      if combiningClass c = 0 then
        composeFrom (between ++ first.toList ++ done) (some c) [] rest
      else composeFrom done first (c :: between) rest
    let blocked : Bool := between.head?.any fun d => combiningClass c ≤ combiningClass d
    match first with
    | none => stay
    | some f =>
      match if blocked then none else pair? f c with
      | some p => composeFrom done (some p) between rest
      | none => stay

def compose (cs : List Char) : List Char := composeFrom [] none [] cs

/-- The composed form of a text. -/
def normalize (cs : List Char) : List Char :=
  if cs.all fun c => c.toNat < 0xC0 then cs else compose (decompose cs)

end AuditTrail.Text.Normal
