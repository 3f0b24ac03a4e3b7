/-! # UTF-8

Octets to characters. A decoder reads one octet after the other and refuses at the first one
that cannot go on; the refusal says where the unfinished character began and how many of its
octets were still good. A lossy decoder refuses nothing: it writes one sign for the octets that
a refusal would name, and reads on after them.
-/

namespace AuditTrail.Text.Utf8

/-- Why octets are no text. -/
inductive Fault
  /-- `length` octets from `index` on start no character. -/
  | invalid (length index : Nat)
  /-- The octets end within the character that starts at `index`. -/
  | incomplete (index : Nat)
deriving DecidableEq, Repr

def Fault.message : Fault → String
  | invalid length index =>
    "invalid utf-8 sequence of " ++ toString length ++ " bytes from index " ++ toString index
  | incomplete index => "incomplete utf-8 byte sequence from index " ++ toString index

/-- A character that has begun. -/
structure Partial where
  /-- The value of the octets read. -/
  code : Nat
  /-- How many octets were read. -/
  seen : Nat
  /-- How many are still to come. -/
  missing : Nat
  /-- The next octet lies between these two. -/
  low : UInt8 := 0x80
  high : UInt8 := 0xBF
deriving DecidableEq, Repr

/-- What a first octet above `7F` begins. -/
def lead? (b : UInt8) : Option Partial :=
  let start (mask : UInt8) (missing : Nat) : Partial :=
    { code := (b &&& mask).toNat, seen := 1, missing }
  if 0xC2 ≤ b && b ≤ 0xDF then some (start 0x1F 1)
  else if b == 0xE0 then some { start 0x0F 2 with low := 0xA0 }
  else if b == 0xED then some { start 0x0F 2 with high := 0x9F }
  else if 0xE1 ≤ b && b ≤ 0xEF then some (start 0x0F 2)
  else if b == 0xF0 then some { start 0x07 3 with low := 0x90 }
  else if 0xF1 ≤ b && b ≤ 0xF3 then some (start 0x07 3)
  else if b == 0xF4 then some { start 0x07 3 with high := 0x8F }
  else none

/-- Reads on at `index`, where the character in `pending` begins, if one has begun. -/
def decodeFrom (index : Nat) (pending : Option Partial) (done : List Char) :
    List UInt8 → Except Fault (List Char)
  | [] =>
    match pending with
    | none => .ok done.reverse
    | some _ => .error (.incomplete index)
  | b :: rest =>
    match pending with
    | none =>
      if b < 0x80 then decodeFrom (index + 1) none (Char.ofNat b.toNat :: done) rest
      else
        match lead? b with
        | some p => decodeFrom index (some p) done rest
        | none => .error (.invalid 1 index)
    | some p =>
      if p.low ≤ b && b ≤ p.high then
        let code := p.code * 64 + (b &&& 0x3F).toNat
        if p.missing ≤ 1 then
          decodeFrom (index + p.seen + 1) none (Char.ofNat code :: done) rest
        else
          decodeFrom index (some { code, seen := p.seen + 1, missing := p.missing - 1 }) done rest
      else .error (.invalid p.seen index)

/-- The characters of an octet sequence. -/
def decode (octets : List UInt8) : Except Fault (List Char) := decodeFrom 0 none [] octets

/-! ## Lossy decoding -/

/-- The sign for octets that are no text. -/
def replacement : Char := '\uFFFD'

/-- What an octet between two characters gives, and the character that it begins. -/
def beginLossy (b : UInt8) : List Char × Option Partial :=
  if b < 0x80 then ([Char.ofNat b.toNat], none)
  else
    match lead? b with
    | some p => ([], some p)
    | none => ([replacement], none)

/-- What an octet gives, and the character that is unfinished after it. -/
def stepLossy (b : UInt8) : Option Partial → List Char × Option Partial
  | none => beginLossy b
  | some p =>
    if p.low ≤ b && b ≤ p.high then
      let code := p.code * 64 + (b &&& 0x3F).toNat
      if p.missing ≤ 1 then ([Char.ofNat code], none)
      else ([], some { code, seen := p.seen + 1, missing := p.missing - 1 })
    else
      -- The unfinished character ends before this octet, which may begin another one.
      let next := beginLossy b
      (replacement :: next.1, next.2)

def decodeLossyFrom (pending : Option Partial) : List UInt8 → List Char
  | [] => if pending.isSome then [replacement] else []
  | b :: rest =>
    let next := stepLossy b pending
    next.1 ++ decodeLossyFrom next.2 rest

/-- The characters of an octet sequence, whatever octets these are. -/
def decodeLossy (octets : List UInt8) : List Char := decodeLossyFrom none octets

/-! ## Encoding -/

/-- The octets of a text. -/
def encode (s : String) : List UInt8 := s.toUTF8.toList

end AuditTrail.Text.Utf8
