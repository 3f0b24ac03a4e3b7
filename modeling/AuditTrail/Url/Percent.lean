/-! # Percent coding

Characters that a part of a URL may not hold are written as the octets of their UTF-8 form, each
as a percent sign and two hexadecimal digits.
-/

namespace AuditTrail.Url

def upperHex (n : Nat) : Char := if n < 10 then Char.ofNat (0x30 + n) else Char.ofNat (0x37 + n)

/-- The written form of an octet. -/
def octetChars (b : UInt8) : List Char := ['%', upperHex (b.toNat / 16), upperHex (b.toNat % 16)]

/-- The written form of a character, given the class of characters that are coded. -/
def encodeChar (coded : Char → Bool) (c : Char) : List Char :=
  if coded c then (String.utf8EncodeChar c).flatMap octetChars else [c]

def encode (coded : Char → Bool) (cs : List Char) : List Char := cs.flatMap (encodeChar coded)

def hexValue? (c : Char) : Option Nat :=
  if c.isDigit then some (c.toNat - 0x30)
  else if 'a' ≤ c && c ≤ 'f' then some (c.toNat - 0x57)
  else if 'A' ≤ c && c ≤ 'F' then some (c.toNat - 0x37)
  else none

/-- The octets of a text in which percent signs with two digits stand for octets. -/
def decode : List Char → List UInt8
  | [] => []
  | '%' :: a :: b :: rest =>
    match hexValue? a, hexValue? b with
    | some x, some y => (x * 16 + y).toUInt8 :: decode rest
    | _, _ => '%'.toUInt8 :: decode (a :: b :: rest)
  | c :: rest => String.utf8EncodeChar c ++ decode rest
termination_by cs => cs.length

/-! ## Classes of characters -/

/-- Controls and all characters beyond ASCII, which are coded everywhere. -/
def codedAlways (c : Char) : Bool := c.toNat < 0x20 || 0x7F ≤ c.toNat

def codedInFragment (c : Char) : Bool :=
  codedAlways c || c == ' ' || c == '"' || c == '<' || c == '>' || c == '`'

def codedInPath (c : Char) : Bool :=
  codedInFragment c || c == '#' || c == '?' || c == '{' || c == '}'

/-- Within a single segment of a path; `special` schemes read a backslash as a slash. -/
def codedInSegment (special : Bool) (c : Char) : Bool :=
  codedInPath c || c == '/' || c == '%' || (special && c == '\\')

def codedInUserInfo (c : Char) : Bool :=
  codedInPath c || c == '/' || c == ':' || c == ';' || c == '=' || c == '@' || c == '[' ||
    c == '\\' || c == ']' || c == '^' || c == '|'

def codedInQuery (special : Bool) (c : Char) : Bool :=
  codedAlways c || c == ' ' || c == '"' || c == '#' || c == '<' || c == '>' ||
    (special && c == '\'')

end AuditTrail.Url
