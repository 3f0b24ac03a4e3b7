import AuditTrail.Pattern.Regex.Basic

/-! # Matching regular expressions

Sets of places of a text are numbers whose binary digits tell the members. An expression is laid
over a text, and then maps the set of places where it may start to the set of places where it
may end. Without counted repetition a match takes a number of such maps linear in the text.
-/

namespace AuditTrail.Pattern.Regex

open Text (CharClass)

/-- A set of places: place `i` belongs to it if binary digit `i` is one. -/
abbrev Places := Nat

/-- The places whose next character belongs to a class. -/
def beforeClass (c : CharClass) (text : List Char) : Places :=
  text.foldr (fun x rest => 2 * rest + (if c.contains x then 1 else 0)) 0

/-- The places at which an assertion holds; `prev` is the character before the text. -/
def holding (l : Look) (prev : Option Char) : List Char → Places
  | [] => if l.holds prev none then 1 else 0
  | x :: rest => 2 * holding l (some x) rest + (if l.holds prev (some x) then 1 else 0)

/-- An expression laid over a text: classes and assertions are the places where they hold. -/
inductive Laid
  | empty
  | chars (places : Places)
  | look (places : Places)
  | seq (a b : Laid)
  | alt (a b : Laid)
  /-- `rounds` is how often `a` may follow its `least` repetitions; none if it may not repeat. -/
  | times (a : Laid) (least : Nat) (rounds : Option Nat)

/-- How many repetitions may follow the least ones: any number is `length + 1`, since a set of
places cannot grow more often. -/
def extraRounds (least : Nat) (most : Option Nat) (length : Nat) : Option Nat :=
  match most with
  | none => some (length + 1)
  | some most => if most < least then none else some (most - least)

def layOver (text : List Char) : Regex → Laid
  | .empty => .empty
  | .chars c => .chars (beforeClass c text)
  | .look l => .look (holding l none text)
  | .seq a b => .seq (layOver text a) (layOver text b)
  | .alt a b => .alt (layOver text a) (layOver text b)
  | .times a least most => .times (layOver text a) least (extraRounds least most text.length)

/-- The members of `a` that are no members of `b`. -/
def without (a b : Places) : Places := a ^^^ (a &&& b)

/-- The places reached in at most `rounds` steps from `fresh`, beside those already seen. -/
def reach (step : Places → Places) : (rounds : Nat) → (seen fresh : Places) → Places
  | 0, seen, _ => seen
  | rounds + 1, seen, fresh =>
    let next := without (step fresh) seen
    if next = 0 then seen else reach step rounds (seen ||| next) next

/-- The places reached in exactly `n` steps. A set that a step leaves alone stays. -/
def after (step : Places → Places) : Nat → Places → Places
  | 0, s => s
  | n + 1, s =>
    let next := step s
    if next = s then s else after step n next

/-- The places where a laid expression may end if it starts at one of the given places. -/
def Laid.ends : Laid → Places → Places
  | .empty, s => s
  | .chars places, s => 2 * (s &&& places)
  | .look places, s => s &&& places
  | .seq a b, s => b.ends (a.ends s)
  | .alt a b, s => a.ends s ||| b.ends s
  | .times a least rounds, s =>
    match rounds with
    | none => 0
    | some rounds =>
      let s := after a.ends least s
      reach a.ends rounds s s

/-- All places of a text. -/
def allPlaces (text : List Char) : Places := Nat.pow 2 (text.length + 1) - 1

/-- Whether an expression matches a text somewhere. -/
def isMatch (r : Regex) (text : List Char) : Bool :=
  (r.layOver text).ends (allPlaces text) != 0

end AuditTrail.Pattern.Regex
