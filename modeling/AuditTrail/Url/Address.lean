import AuditTrail.Text.Split
import AuditTrail.Url.Error
import AuditTrail.Url.Percent

/-! # Internet addresses

Numeric hosts: addresses of version 4 in any of their spellings, and of version 6.
-/

namespace AuditTrail.Url

/-! ## Version 4 -/

/-- A number in decimal, octal after a zero or hexadecimal after `0x`. Nothing at all stands for
no number, a bare `0x` for zero. -/
def addressNumber? (cs : List Char) : Option Nat :=
  let value (base : Nat) (digits : List Char) : Option Nat :=
    digits.foldl (fun n c =>
      match n, hexValue? c with
      | some n, some d => if d < base then some (n * base + d) else none
      | _, _ => none) (some 0)
  match cs with
  | [] => none
  | '0' :: 'x' :: rest | '0' :: 'X' :: rest => value 16 rest
  | '0' :: c :: rest => value 8 (c :: rest)
  | cs => value 10 cs

/-- Whether the last label of a host is a number, which makes the host an address. -/
def endsInNumber (host : List Char) : Bool :=
  let labels := (Text.splitWhere (· == '.') host).reverse
  let last :=
    match labels with
    | [] :: more => more.head?
    | label :: _ => some label
    | [] => none
  match last with
  | none => false
  | some label => (!label.isEmpty && label.all Char.isDigit) || (addressNumber? label).isSome

/-- The value of an address: all numbers but the last are octets, the last fills the rest. -/
def ipv4? (host : List Char) : Option Nat := do
  let labels := Text.splitWhere (· == '.') host
  let labels := if labels.getLast? == some [] then labels.dropLast else labels
  if 4 < labels.length then none
  else
    let numbers ← labels.mapM addressNumber?
    let last ← numbers.getLast?
    let octets := numbers.dropLast
    if Nat.pow 256 (4 - octets.length) ≤ last || octets.any (255 < ·) then none
    else
      some (octets.zipIdx.foldl (fun n p => n + p.1 * Nat.pow 256 (3 - p.2)) last)

def ipv4Text (address : Nat) : String :=
  ".".intercalate ([24, 16, 8, 0].map fun shift => toString (address / Nat.pow 2 shift % 256))

/-! ## Version 6 -/

/-- Pieces of an address read so far: those before the gap of zeros, and those after it if there
is a gap. -/
structure Pieces where
  before : List Nat := []
  afterGap : Option (List Nat) := none

namespace Pieces

def count (p : Pieces) : Nat := p.before.length + (p.afterGap.getD []).length

def add (p : Pieces) (n : Nat) : Pieces :=
  match p.afterGap with
  | none => { p with before := p.before ++ [n] }
  | some after => { p with afterGap := some (after ++ [n]) }

/-- The eight pieces; a gap stands for at least one. -/
def full? (p : Pieces) : Option (List Nat) :=
  match p.afterGap with
  | none => if p.before.length = 8 then some p.before else none
  | some after =>
    if p.count < 8 then some (p.before ++ List.replicate (8 - p.count) 0 ++ after) else none

end Pieces

/-- Four octets in decimal without leading zeros, as two pieces. -/
def embeddedIpv4? (cs : List Char) : Option (Nat × Nat) := do
  let octet (digits : List Char) : Option Nat :=
    match digits with
    | [] => none
    | '0' :: _ :: _ => none
    | _ =>
      if digits.all Char.isDigit && digits.length ≤ 3 then
        (addressNumber? digits).filter (· ≤ 255)
      else none
  match ← (Text.splitWhere (· == '.') cs).mapM octet with
  | [a, b, c, d] => some (a * 256 + b, c * 256 + d)
  | _ => none

/-- Pieces between colons. An empty part is the gap; `::` at either end leaves two. -/
def readPieces? (p : Pieces) : List (List Char) → Option Pieces
  | [] => some p
  | [] :: rest =>
    if p.afterGap.isSome then none else readPieces? { p with afterGap := some [] } rest
  | part :: rest =>
    if 8 ≤ p.count then none
    else if part.contains '.' then
      match rest, embeddedIpv4? part with
      | [], some (high, low) => if p.count ≤ 6 then some ((p.add high).add low) else none
      | _, _ => none
    else if 4 < part.length then none
    else do
      let digits ← part.mapM hexValue?
      readPieces? (p.add (digits.foldl (fun n d => n * 16 + d) 0)) rest

/-- The eight pieces of an address without its brackets. -/
def ipv6? (cs : List Char) : Option (List Nat) :=
  match Text.splitWhere (· == ':') cs with
  | [] :: [] :: rest =>
    -- A gap at the start; alone it is the whole address.
    let rest := if rest = [[]] then [] else rest
    (readPieces? {} ([] :: rest)).bind Pieces.full?
  | [] :: _ => none
  | parts =>
    match parts.reverse with
    | [] :: [] :: more => (readPieces? {} (more.reverse ++ [[]])).bind Pieces.full?
    | [] :: _ => none
    | _ => (readPieces? {} parts).bind Pieces.full?

/-- A run of zeros: where it starts and how many pieces it has. -/
def zeroRuns (start run : Nat) : List Nat → List (Nat × Nat)
  | [] => [(start, run)]
  | n :: rest =>
    if n = 0 then zeroRuns start (run + 1) rest
    else (start, run) :: zeroRuns (start + run + 1) 0 rest

/-- The first of the longest runs of at least two zeros. -/
def longestZeroRun? (pieces : List Nat) : Option (Nat × Nat) :=
  (zeroRuns 0 0 pieces).foldl (fun best run =>
    if run.2 < 2 then best
    else
      match best with
      | none => some run
      | some b => if b.2 < run.2 then some run else best) none

def pieceText (n : Nat) : String := String.ofList ((Nat.toDigits 16 n).map Char.toLower)

def ipv6Text (pieces : List Nat) : String :=
  let join (l : List Nat) := ":".intercalate (l.map pieceText)
  match longestZeroRun? pieces with
  | none => "[" ++ join pieces ++ "]"
  | some (start, run) =>
    "[" ++ join (pieces.take start) ++ "::" ++ join (pieces.drop (start + run)) ++ "]"

end AuditTrail.Url
