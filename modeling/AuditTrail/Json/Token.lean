import AuditTrail.Json.Number

/-! # JSON tokens

The lexical layer: blanks separate tokens, and a string keeps the text that its escapes stand
for. An escape may name half of a surrogate pair; a string with an unpaired half is a token, but
it has no text.
-/

namespace AuditTrail.Json

inductive Token
  | beginObject
  | endObject
  | beginArray
  | endArray
  | colon
  | comma
  | null
  | bool (b : Bool)
  | number (n : Numeral)
  /-- The text, if there is one. -/
  | string (text : Option String)
deriving DecidableEq, Repr

namespace Token

def isSpace (c : Char) : Bool := c == ' ' || c == '\n' || c == '\t' || c == '\r'

/-! ## Numerals -/

/-- The leading digits, and what follows them. -/
def readDigits (cs : List Char) : List Nat × List Char :=
  ((cs.takeWhile Char.isDigit).map fun c => c.toNat - '0'.toNat, cs.dropWhile Char.isDigit)

/-- A point with at least one digit after it. -/
def readFraction (cs : List Char) : List Nat × List Char :=
  match cs with
  | '.' :: rest =>
    match readDigits rest with
    | ([], _) => ([], cs)
    | read => read
  | _ => ([], cs)

def readSign : List Char → Bool × List Char
  | '+' :: rest => (false, rest)
  | '-' :: rest => (true, rest)
  | cs => (false, cs)

/-- The letter `e` with an optional sign and at least one digit after it. -/
def readExponent (cs : List Char) : Option (Bool × List Nat) × List Char :=
  match cs with
  | 'e' :: rest | 'E' :: rest =>
    match readDigits (readSign rest).2 with
    | ([], _) => (none, cs)
    | (digits, after) => (some ((readSign rest).1, digits), after)
  | _ => (none, cs)

/-- A numeral that starts with its first digit. A leading zero stands alone. -/
def readNumeral (negative : Bool) (cs : List Char) : Option (Numeral × List Char) :=
  let (whole, afterWhole) :=
    match cs with
    | '0' :: rest => ([0], rest)
    | _ => readDigits cs
  match whole with
  | [] => none
  | whole =>
    let (fraction, afterFraction) := readFraction afterWhole
    let (exponent, rest) := readExponent afterFraction
    some ({ negative, whole, fraction, exponent }, rest)

/-! ## Strings -/

def hexDigit? (c : Char) : Option Nat :=
  let n := c.toNat
  if c.isDigit then some (n - 0x30)
  else if 'a' ≤ c && c ≤ 'f' then some (n - 0x57)
  else if 'A' ≤ c && c ≤ 'F' then some (n - 0x37)
  else none

/-- What a one-letter escape stands for. -/
def escaped? : Char → Option Char
  | '"' => some '"'
  | '\\' => some '\\'
  | '/' => some '/'
  | 'b' => some '\x08'
  | 'f' => some '\x0c'
  | 'n' => some '\n'
  | 'r' => some '\r'
  | 't' => some '\t'
  | _ => none

/-- The text of a string under construction. -/
structure Quoted where
  /-- The characters so far, last first. -/
  done : List Char := []
  /-- The first half of a surrogate pair, whose second half must follow at once. -/
  half : Option Nat := none
  /-- Whether an unpaired half was met. -/
  broken : Bool := false

namespace Quoted

def char (q : Quoted) (c : Char) : Quoted :=
  { q with done := c :: q.done, half := none, broken := q.broken || q.half.isSome }

/-- Takes a unit of UTF-16. -/
def unit (q : Quoted) (n : Nat) : Quoted :=
  if 0xD800 ≤ n && n ≤ 0xDBFF then
    { q with half := some n, broken := q.broken || q.half.isSome }
  else if 0xDC00 ≤ n && n ≤ 0xDFFF then
    match q.half with
    | some high =>
      { q with
        done := Char.ofNat (0x10000 + (high - 0xD800) * 0x400 + (n - 0xDC00)) :: q.done
        half := none }
    | none => { q with broken := true }
  else q.char (Char.ofNat n)

def text? (q : Quoted) : Option String :=
  if q.broken || q.half.isSome then none else some (String.ofList q.done.reverse)

end Quoted

/-- Where a reader stands within a string. -/
inductive Mode
  | plain
  | escape
  /-- Within the digits of an escape: the digits so far, and how many are missing. -/
  | unit (code missing : Nat)

/-- Reads the rest of a string after its opening quote. -/
def readString (q : Quoted) (mode : Mode) : List Char → Option (Option String × List Char)
  | [] => none
  | c :: rest =>
    match mode with
    | .plain =>
      if c = '"' then some (q.text?, rest)
      else if c = '\\' then readString q .escape rest
      else if c.toNat < 0x20 then none
      else readString (q.char c) .plain rest
    | .escape =>
      if c = 'u' then readString q (.unit 0 4) rest
      else
        match escaped? c with
        | some e => readString (q.char e) .plain rest
        | none => none
    | .unit code missing =>
      match hexDigit? c with
      | none => none
      | some d =>
        if missing ≤ 1 then readString (q.unit (code * 16 + d)) .plain rest
        else readString q (.unit (code * 16 + d) (missing - 1)) rest

/-! ## Tokens -/

/-- Drops a word at the front. -/
def afterWord? (word : List Char) (cs : List Char) : Option (List Char) :=
  if word.isPrefixOf cs then some (cs.drop word.length) else none

/-- One token at the front. -/
def read? : List Char → Option (Token × List Char)
  | [] => none
  | c :: rest =>
    match c with
    | '{' => some (.beginObject, rest)
    | '}' => some (.endObject, rest)
    | '[' => some (.beginArray, rest)
    | ']' => some (.endArray, rest)
    | ':' => some (.colon, rest)
    | ',' => some (.comma, rest)
    | 'n' => (afterWord? ['u', 'l', 'l'] rest).map (.null, ·)
    | 't' => (afterWord? ['r', 'u', 'e'] rest).map (.bool true, ·)
    | 'f' => (afterWord? ['a', 'l', 's', 'e'] rest).map (.bool false, ·)
    | '"' => (readString {} .plain rest).map fun r => (.string r.1, r.2)
    | '-' => (readNumeral true rest).map fun r => (.number r.1, r.2)
    | _ => (readNumeral false (c :: rest)).map fun r => (.number r.1, r.2)

/-- The tokens of a text, read in at most `fuel` steps. -/
def readAll (done : List Token) : Nat → List Char → Option (List Token)
  | _, [] => some done.reverse
  | 0, _ :: _ => none
  | fuel + 1, c :: rest =>
    if isSpace c then readAll done fuel rest
    else
      match read? (c :: rest) with
      | some (t, rest) => readAll (t :: done) fuel rest
      | none => none

/-- The tokens of a text: every step takes at least one character. -/
def ofText? (cs : List Char) : Option (List Token) := readAll [] cs.length cs

end Token

end AuditTrail.Json
