import AuditTrail.Text.CharClass.Derived
import AuditTrail.Text.Property.Age
import AuditTrail.Text.Property.Script

/-! # Properties by name

The classes that a pattern names: a property, a category or a script of its own, or a property
with one of its values.
-/

namespace AuditTrail.Text.CharClass

/-- A name without its blanks, hyphens, underscores and other scripts, in lower case, and
without `is` before it. -/
def looseName (s : String) : String :=
  let cs := s.toList
  let isPrefixed := (cs.take 2).map Char.toLower == ['i', 's']
  let kept := (if isPrefixed then cs.drop 2 else cs).filter fun c =>
    c != ' ' && c != '_' && c != '-' && c.toNat < 0x80
  let name := String.ofList (kept.map Char.toLower)
  if isPrefixed && name == "c" then "isc" else name

def category? (name : String) : Option CharClass :=
  match name with
  | "any" => some anything
  | "ascii" => some ascii
  | "assigned" => some (complement (ranges Property.unassigned))
  | _ =>
    (Property.categoryGroups.find? (·.1.contains name)).map fun group =>
      unions (group.2.map ranges)

def script? (name : String) : Option CharClass :=
  (Property.scripts.find? (·.1.contains name)).map fun s => ranges s.2

def classIn? (classes : List (List String × CharClass)) (name : String) : Option CharClass :=
  (classes.find? (·.1.contains name)).map (·.2)

def binary? (name : String) : Option CharClass :=
  (Property.binaries.find? (·.1.contains name)).map (fun p => ranges p.2) <|>
    classIn? derivedBinaries name

/-- The class with a name of its own: a property, a category or a script. -/
def named? (name : String) : Option CharClass :=
  let loose := looseName name
  let property := if loose == "cf" || loose == "sc" || loose == "lc" then none else binary? loose
  (property <|> category? loose) <|> script? loose

/-! ## Properties with a value -/

/-- The characters used with a script. One that several scripts share is no longer common to all
of them, nor does it inherit its script from the character before it. -/
def scriptExtension? (name : String) : Option CharClass :=
  (script? name).map fun script =>
    if ["zyyy", "common", "zinh", "inherited", "qaai"].contains name then
      difference script (unions (Property.sharedCharacters.map fun s => ranges s.2))
    else
      match Property.sharedCharacters.find? (·.1.contains name) with
      | some shared => union script (ranges shared.2)
      | none => script

/-- The characters that a version of Unicode assigns, those of the versions before it among
them. -/
def age? (name : String) : Option CharClass :=
  (Property.ages.findIdx? (·.1.contains name)).map fun i =>
    unions ((Property.ages.take (i + 1)).map fun age => ranges age.2)

/-- The class of the characters whose property has a value. -/
def valued? (property value : String) : Option CharClass :=
  let loose := looseName value
  match looseName property with
  | "gc" | "generalcategory" => category? loose
  | "sc" | "script" => script? loose
  | "scx" | "scriptextensions" => scriptExtension? loose
  | "age" => age? loose
  | "gcb" | "graphemeclusterbreak" => classIn? clusterBreaks loose
  | "wb" | "wordbreak" => classIn? wordBreaks loose
  | "sb" | "sentencebreak" => classIn? sentenceBreaks loose
  | _ => none

end AuditTrail.Text.CharClass
