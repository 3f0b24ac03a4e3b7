import AuditTrail.Text.Split
import AuditTrail.Text.Utf8
import AuditTrail.Url.Percent

/-! # Form coding

Pairs of names and values as `application/x-www-form-urlencoded` text: letters, digits and four
marks stand for themselves, a plus sign for a blank, and any other octet is percent coded.
-/

namespace AuditTrail.Url.Form

def isPlain (c : Char) : Bool := c.isAlphanum || c == '*' || c == '-' || c == '.' || c == '_'

def encodeChar (c : Char) : List Char :=
  if c = ' ' then ['+'] else Url.encodeChar (!isPlain ·) c

def encodeText (s : String) : List Char := s.toList.flatMap encodeChar

def encodePair (p : String × String) : List Char := encodeText p.1 ++ '=' :: encodeText p.2

/-- The written form of a list of pairs. -/
def encode (pairs : List (String × String)) : String :=
  String.ofList (List.intercalate ['&'] (pairs.map encodePair))

/-! ## Reading -/

/-- A blank may be written as a plus sign. -/
def unplus (c : Char) : Char := if c = '+' then ' ' else c

/-- The text that a name or a value was written for. -/
def decodeText (cs : List Char) : String :=
  String.ofList (Text.Utf8.decodeLossy (Url.decode (cs.map unplus)))

/-- A pair is cut at its first equals sign; without one its value is empty. -/
def decodePair (cs : List Char) : String × String :=
  (decodeText (cs.takeWhile (· != '=')), decodeText ((cs.dropWhile (· != '=')).drop 1))

/-- The pairs of a written form; nothing stands between two separators that meet. -/
def decode (s : String) : List (String × String) :=
  ((Text.splitWhere (· == '&') s.toList).filter fun cs => !cs.isEmpty).map decodePair

end AuditTrail.Url.Form
