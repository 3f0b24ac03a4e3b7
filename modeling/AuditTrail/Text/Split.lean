/-! # Splitting text

Parts of a text between separators. There is always one part more than separators.
-/

namespace AuditTrail.Text

/-- Puts a character before the first part. -/
def consFirst (c : Char) : List (List Char) → List (List Char)
  | [] => [[c]]
  | part :: rest => (c :: part) :: rest

/-- The parts between the characters that separate. -/
def splitWhere (separates : Char → Bool) (cs : List Char) : List (List Char) :=
  cs.foldr (fun c parts => if separates c then [] :: parts else consFirst c parts) [[]]

def split (separator : Char) (s : String) : List String :=
  (splitWhere (· == separator) s.toList).map String.ofList

end AuditTrail.Text
