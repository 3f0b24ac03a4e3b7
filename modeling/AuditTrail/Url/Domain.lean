import AuditTrail.Text.Split
import AuditTrail.Url.Domain.Label
import AuditTrail.Url.Domain.Punycode

/-! # Domain names

The written form of a domain name: in lower case, with labels beyond ASCII in Punycode after the
mark `xn--`.
-/

namespace AuditTrail.Url.Domain

/-- Characters that end a host or stand for something else in a URL. -/
def isForbidden (c : Char) : Bool :=
  c.toNat ≤ 0x20 || c.toNat == 0x7F ||
    ['#', '%', '/', ':', '<', '>', '?', '@', '[', '\\', ']', '^', '|'].contains c

def isAscii (cs : List Char) : Bool := cs.all fun c => c.toNat < 0x80

/-- What stands before Punycode. -/
def mark : List Char := ['x', 'n', '-', '-']

/-- How many characters a label may have that is written in Punycode, and how many its written
form. -/
def longestCoded : Nat := 1000

def longestDecoded : Nat := 2000

/-- The text of a label, if it may be part of a name. Punycode stands for a text that needs it
and that is written no other way. -/
def labelText? (label : List Char) : Option (List Char) :=
  if mark.isPrefixOf label then
    let coded := label.drop mark.length
    if longestDecoded < coded.length then none
    else
      (Punycode.decode? coded).filter fun text =>
        !isAscii text && !mark.isPrefixOf text && Text.Normal.normalize text == text &&
          isLabel text
  else if isLabel label then some label else none

/-- The written form of a label and its text. -/
def labelAscii? (label text : List Char) : Option (List Char) :=
  if isAscii label then some label
  else if longestCoded < text.length then none
  else some (mark ++ Punycode.encode text)

/-- The written form of a name. -/
def toAscii? (cs : List Char) : Option (List Char) := do
  let mapped := Text.Normal.normalize (← cs.mapM mapChar?).flatten
  if mapped.any isForbidden then none
  else
    let labels := Text.splitWhere (· == '.') mapped
    let texts ← labels.mapM labelText?
    if texts.any (·.any isForbidden) ||
        (texts.any isRightToLeft && !texts.all directionIsClear) then
      none
    else
      let written ← (labels.zip texts).mapM fun p => labelAscii? p.1 p.2
      some (List.intercalate ['.'] written)

end AuditTrail.Url.Domain
