import AuditTrail.Text.CodeGroups
import AuditTrail.Text.Normal
import AuditTrail.Text.Property.Category
import AuditTrail.Text.Property.Direction
import AuditTrail.Url.Domain.Table

/-! # Labels of domain names

What each character of a domain name stands for, and which labels may be part of a name: those
whose joiners join something, and, in names that run from right to left, those whose direction is
clear.
-/

namespace AuditTrail.Url.Domain

open Text (Ranges codeGroups)
open Text.Normal (combiningClass)

/-! ## Mapping -/

/-- Runs in which every second character is mapped to the one after it. -/
def pairedRuns : List (List Nat) := codeGroups pairedText

/-- Runs that are mapped to a run. -/
def shiftedRuns : List (List Nat) := codeGroups shiftedText

/-- Characters that are mapped to one or more. -/
def replacements : List (List Nat) := codeGroups replacedText

def pairedCode? (n : Nat) : Option Nat :=
  pairedRuns.findSome? fun g =>
    match g with
    | [low, high] => if low ≤ n && n ≤ high && (n - low) % 2 == 0 then some (n + 1) else none
    | _ => none

def shiftedCode? (n : Nat) : Option Nat :=
  shiftedRuns.findSome? fun g =>
    match g with
    | [low, high, target] => if low ≤ n && n ≤ high then some (target + (n - low)) else none
    | _ => none

def replacedCodes? (n : Nat) : Option (List Nat) :=
  (replacements.find? fun g => g.head? == some n).map List.tail

/-- What stands for a character; nothing at all for one that is not allowed. -/
def mapChar? (c : Char) : Option (List Char) :=
  if kept.contains c then some [c]
  else if ignored.contains c then some []
  else
    let codes :=
      (pairedCode? c.toNat <|> shiftedCode? c.toNat).map ([·]) <|> replacedCodes? c.toNat
    codes.map (·.map Char.ofNat)

/-! ## Joiners -/

/-- Whether a character makes its neighbours join, or join them not. -/
def isJoiner (c : Char) : Bool := c == '\u200c' || c == '\u200d'

/-- Whether the characters before a place, last first, let a letter join on to what follows. -/
def joinsOn (joining : List Ranges) (cs : List Char) : Bool :=
  match cs.dropWhile Text.Property.transparent.contains with
  | [] => false
  | c :: _ => joining.any fun r => r.contains c

/-- Whether a joiner has something to join. It may follow a virama; one that parts letters may
also stand between letters that would join. -/
def joinerFits (before after : List Char) (c : Char) : Bool :=
  before.head?.any (combiningClass · == 9) ||
    (c == '\u200c' &&
      joinsOn [Text.Property.leftJoining, Text.Property.dualJoining] before &&
      joinsOn [Text.Property.rightJoining, Text.Property.dualJoining] after)

/-- Whether all joiners fit; `before` is what was passed, last first. -/
def joinersFit (before : List Char) : List Char → Bool
  | [] => true
  | c :: rest => (!isJoiner c || joinerFits before rest c) && joinersFit (c :: before) rest

/-! ## Directions -/

/-- The bidirectional class of a character, as far as it matters. -/
inductive Direction
  | left
  | right
  | arabicNumber
  | europeanNumber
  | neutral
  | mark
  | barred
deriving DecidableEq, Repr

def directions : List (Direction × List Ranges) :=
  [(.right, [Text.Property.rightToLeft, Text.Property.arabicLetter]),
    (.arabicNumber, [Text.Property.arabicNumber]),
    (.europeanNumber, [Text.Property.europeanNumber]),
    (.neutral,
      [Text.Property.europeanSeparator, Text.Property.commonSeparator,
        Text.Property.europeanTerminator, Text.Property.otherNeutral,
        Text.Property.boundaryNeutral]),
    (.mark, [Text.Property.nonspacing]),
    (.barred, [Text.Property.directionControl])]

def direction (c : Char) : Direction :=
  match directions.find? fun d => d.2.any fun r => r.contains c with
  | some d => d.1
  | none => .left

/-- Whether a label makes its name run from right to left. -/
def isRightToLeft (cs : List Char) : Bool :=
  cs.any fun c => direction c == .right || direction c == .arabicNumber

/-- The direction in which a label ends, marks apart. -/
def lastDirection? (ds : List Direction) : Option Direction :=
  (ds.reverse.dropWhile (· == .mark)).head?

/-- Whether the direction of a label is clear. -/
def directionIsClear (cs : List Char) : Bool :=
  let ds := cs.map direction
  match ds with
  | [] => true
  | .right :: _ =>
    ds.all (fun d => d != .left && d != .barred) &&
      !(ds.contains .europeanNumber && ds.contains .arabicNumber) &&
      (lastDirection? ds).any fun d =>
        d == .right || d == .europeanNumber || d == .arabicNumber
  | .left :: _ =>
    ds.all (fun d => d != .right && d != .arabicNumber && d != .barred) &&
      (lastDirection? ds).any fun d => d == .left || d == .europeanNumber
  | _ => false

/-! ## Labels -/

def isMark (c : Char) : Bool :=
  [Text.Property.nonspacingMark, Text.Property.spacingMark, Text.Property.enclosingMark].any
    fun r => r.contains c

/-- Whether a label may be part of a name: it starts with no mark, all of its characters are
kept, and its joiners fit. -/
def isLabel (cs : List Char) : Bool :=
  !cs.head?.any isMark && cs.all kept.contains && joinersFit [] cs

end AuditTrail.Url.Domain
