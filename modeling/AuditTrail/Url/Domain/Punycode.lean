/-! # Punycode

Any text in letters, digits and hyphens: the ASCII characters come first, and numbers of variable
length tell where the others go.
-/

namespace AuditTrail.Url.Domain.Punycode

def base : Nat := 36

def firstCode : Nat := 0x80

def firstBias : Nat := 72

/-- The least and the greatest threshold of a digit. -/
def least : Nat := 1

def greatest : Nat := 26

/-- The threshold of the digit at a place, where places count `base` each from `base` on. -/
def threshold (bias place : Nat) : Nat := min (max (place - bias) least) greatest

/-- Halves a number until it is small, and counts the steps. -/
def reduce (k n : Nat) : Nat × Nat :=
  if _h : n ≤ (base - least) * greatest / 2 then (k, n)
  else reduce (k + base) (n / (base - least))
termination_by n
decreasing_by
  simp only [base, least, greatest] at *
  omega

/-- The bias after a number was written. -/
def adapt (delta count : Nat) (isFirst : Bool) : Nat :=
  let delta := if isFirst then delta / 700 else delta / 2
  let (k, n) := reduce 0 (delta + delta / count)
  k + (base - least + 1) * n / (n + 38)

def digitChar (d : Nat) : Char := if d < 26 then Char.ofNat (0x61 + d) else Char.ofNat (0x16 + d)

def digit? (c : Char) : Option Nat :=
  if 'a' ≤ c && c ≤ 'z' then some (c.toNat - 0x61)
  else if 'A' ≤ c && c ≤ 'Z' then some (c.toNat - 0x41)
  else if c.isDigit then some (c.toNat - 0x16)
  else none

/-! ## Writing -/

/-- The digits of a number, the lowest first. -/
def digits (bias place n : Nat) : List Char :=
  let t := threshold bias place
  if _h : n < t then [digitChar n]
  else digitChar (t + (n - t) % (base - t)) :: digits bias (place + base) ((n - t) / (base - t))
termination_by n
decreasing_by
  have ht : 1 ≤ threshold bias place := by simp only [threshold, least, greatest]; omega
  exact Nat.lt_of_le_of_lt (Nat.div_le_self _ _) (by omega)

/-- What has been written, and what is needed to go on. -/
structure Writing where
  delta : Nat := 0
  bias : Nat := firstBias
  /-- How many characters are placed. -/
  placed : Nat
  written : List Char := []

/-- Passes over a character, or writes where it goes if its code is `code`. -/
def Writing.step (code basics : Nat) (w : Writing) (c : Char) : Writing :=
  if c.toNat < code then { w with delta := w.delta + 1 }
  else if c.toNat = code then
    { delta := 0
      bias := adapt w.delta (w.placed + 1) (w.placed == basics)
      placed := w.placed + 1
      written := w.written ++ digits w.bias base w.delta }
  else w

/-- Writes all characters from a code on; `codes` are the codes that occur, in ascending order. -/
def writeCodes (cs : List Char) (basics : Nat) (code : Nat) (w : Writing) : List Nat → Writing
  | [] => w
  | n :: rest =>
    let w := { w with delta := w.delta + (n - code) * (w.placed + 1) }
    let w := cs.foldl (Writing.step n basics) w
    writeCodes cs basics (n + 1) { w with delta := w.delta + 1 } rest

/-- The codes beyond ASCII that occur, in ascending order. -/
def codes (cs : List Char) : List Nat :=
  (((cs.map Char.toNat).filter (firstCode ≤ ·)).mergeSort).eraseReps

/-- The written form of a text. -/
def encode (cs : List Char) : List Char :=
  let basic := cs.filter fun c => c.toNat < firstCode
  let w := writeCodes cs basic.length firstCode { placed := basic.length } (codes cs)
  basic ++ (if basic.isEmpty then [] else ['-']) ++ w.written

/-! ## Reading -/

/-- Reads the digits of a number onto `n`, and gives what follows them. -/
def number? (bias place weight n : Nat) : List Char → Option (Nat × List Char)
  | [] => none
  | c :: rest => do
    let d ← digit? c
    let n := n + d * weight
    let t := threshold bias place
    if d < t then some (n, rest)
    else number? bias (place + base) (weight * (base - t)) n rest

theorem length_lt_of_number? {bias place weight n m : Nat} {cs rest : List Char}
    (h : number? bias place weight n cs = some (m, rest)) : rest.length < cs.length := by
  induction cs generalizing place weight n with
  | nil => simp [number?] at h
  | cons c cs ih =>
    simp only [number?, Option.bind_eq_bind, Option.bind_eq_some_iff] at h
    obtain ⟨d, -, h⟩ := h
    split at h
    · simp only [Option.some.injEq, Prod.mk.injEq] at h
      simp [← h.2]
    · exact Nat.lt_succ_of_lt (ih h)

/-- Reads on: `place` and `code` tell where the last character went and what it was. -/
def readFrom (place code bias : Nat) (placed : List Nat) (isFirst : Bool) (cs : List Char) :
    Option (List Nat) :=
  match cs with
  | [] => some placed
  | c :: rest =>
    match h : number? bias base 1 place (c :: rest) with
    | none => none
    | some (n, after) =>
      have := List.length_cons ▸ length_lt_of_number? h
      let count := placed.length + 1
      let code := code + n / count
      if 0x10FFFF < code || (0xD800 ≤ code && code ≤ 0xDFFF) then none
      else
        let index := n % count
        readFrom (index + 1) code (adapt (n - place) count isFirst)
          (placed.take index ++ [code] ++ placed.drop index) false after
termination_by cs.length

/-- The text that a written form stands for. The last hyphen ends the ASCII characters, if there
are any before it. -/
def decode? (cs : List Char) : Option (List Char) :=
  let (basic, rest) :=
    match cs.reverse.span (· != '-') with
    | (after, _ :: c :: before) => ((c :: before).reverse, after.reverse)
    | _ => ([], cs)
  if cs.all fun c => c.toNat < firstCode then
    (readFrom 0 firstCode firstBias (basic.map Char.toNat) true rest).map (·.map Char.ofNat)
  else none

end AuditTrail.Url.Domain.Punycode
