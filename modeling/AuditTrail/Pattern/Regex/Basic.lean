import AuditTrail.Text.CharClass

/-! # Regular expressions

Expressions over classes of characters with assertions about the place between two characters.
An expression leads from one place of a text to another; which of several ways it takes is of no
concern here, so that greedy and lazy repetition are one.
-/

namespace AuditTrail.Pattern

open Text (CharClass)

/-- What an assertion about words asks of the characters before and after a place. -/
inductive WordLook
  | boundary
  | inside
  | start
  | finish
  | startHalf
  | endHalf
deriving DecidableEq, Repr

/-- An assertion about a place of a text. -/
inductive Look
  | start
  | finish
  | lineStart
  | lineEnd
  /-- Line ends are `\r`, `\n` and `\r\n`. -/
  | anyLineStart
  | anyLineEnd
  | word (asciiOnly : Bool) (w : WordLook)
deriving DecidableEq, Repr

def isWordChar (asciiOnly : Bool) : Option Char → Bool
  | none => false
  | some c => if asciiOnly then CharClass.asciiWord.contains c else CharClass.word.contains c

def WordLook.holds : WordLook → (before after : Bool) → Bool
  | boundary, b, a => b != a
  | inside, b, a => b == a
  | start, b, a => !b && a
  | finish, b, a => b && !a
  | startHalf, b, _ => !b
  | endHalf, _, a => !a

/-- Whether an assertion holds between two characters, either of which may be missing. -/
def Look.holds : Look → (before after : Option Char) → Bool
  | start, before, _ => before.isNone
  | finish, _, after => after.isNone
  | lineStart, before, _ => before.isNone || before == some '\n'
  | lineEnd, _, after => after.isNone || after == some '\n'
  | anyLineStart, before, after =>
    before.isNone || before == some '\n' || (before == some '\r' && after != some '\n')
  | anyLineEnd, before, after =>
    after.isNone || after == some '\r' || (after == some '\n' && before != some '\r')
  | word asciiOnly w, before, after =>
    w.holds (isWordChar asciiOnly before) (isWordChar asciiOnly after)

inductive Regex
  | empty
  | chars (c : CharClass)
  | look (l : Look)
  | seq (a b : Regex)
  | alt (a b : Regex)
  /-- At least `least` times `a`, and at most `most` times if that is given. -/
  | times (a : Regex) (least : Nat) (most : Option Nat)
deriving Inhabited

namespace Regex

/-- The character before a place. -/
def before (text : List Char) (i : Nat) : Option Char := if i = 0 then none else text[i - 1]?

/-- The ways of an expression from place to place of a text. -/
inductive Leads (text : List Char) : Regex → Nat → Nat → Prop
  | empty (i : Nat) : Leads text .empty i i
  | chars {c : CharClass} {i : Nat} {x : Char} :
    text[i]? = some x → c.contains x = true → Leads text (.chars c) i (i + 1)
  | look {l : Look} {i : Nat} :
    i ≤ text.length → l.holds (before text i) text[i]? = true → Leads text (.look l) i i
  | seq {a b : Regex} {i j k : Nat} :
    Leads text a i j → Leads text b j k → Leads text (.seq a b) i k
  | altLeft {a b : Regex} {i j : Nat} : Leads text a i j → Leads text (.alt a b) i j
  | altRight {a b : Regex} {i j : Nat} : Leads text b i j → Leads text (.alt a b) i j
  | stop {a : Regex} {most : Option Nat} (i : Nat) : Leads text (.times a 0 most) i i
  | again {a : Regex} {least : Nat} {most : Option Nat} {i j k : Nat} :
    most ≠ some 0 → Leads text a i j →
    Leads text (.times a (least - 1) (most.map (· - 1))) j k →
    Leads text (.times a least most) i k

/-- An expression matches a text if it leads from some place to some other. -/
def Matches (r : Regex) (text : List Char) : Prop :=
  ∃ i j, i ≤ text.length ∧ Leads text r i j

/-- An expression matches a text from its first to its last character. -/
def MatchesWhole (r : Regex) (text : List Char) : Prop := Leads text r 0 text.length

def seqs (items : List Regex) : Regex := items.foldr seq empty

end Regex

end AuditTrail.Pattern
