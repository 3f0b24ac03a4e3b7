import AuditTrail.Time

/-! # Index templates

Names of indices that may depend on the date. Quoted text stands for itself and two quotes for
one. Among letters that are not quoted only the date fields may occur; a text that breaks this
rule, or that ends within quotes, is a name as it stands.
-/

namespace AuditTrail

namespace IndexTemplate

inductive DateField
  | year
  | yearOfCentury
  | month
  | day
  | hour
  | minute
  | second
deriving DecidableEq, Repr

inductive Part
  | literal (c : Char)
  | date (f : DateField)
deriving DecidableEq, Repr

/-- The date field at the start of a text, and what follows it. -/
def dateField? : List Char → Option (DateField × List Char)
  | 'y' :: 'y' :: 'y' :: 'y' :: rest => some (.year, rest)
  | 'Y' :: 'Y' :: 'Y' :: 'Y' :: rest => some (.year, rest)
  | 'y' :: 'y' :: rest => some (.yearOfCentury, rest)
  | 'M' :: 'M' :: rest => some (.month, rest)
  | 'd' :: 'd' :: rest => some (.day, rest)
  | 'H' :: 'H' :: rest => some (.hour, rest)
  | 'm' :: 'm' :: rest => some (.minute, rest)
  | 's' :: 's' :: rest => some (.second, rest)
  | _ => none

theorem length_lt_of_dateField? {cs rest : List Char} {f : DateField}
    (h : dateField? cs = some (f, rest)) : rest.length < cs.length := by
  unfold dateField? at h
  split at h <;> simp only [Option.some.injEq, Prod.mk.injEq, reduceCtorEq] at h <;>
    obtain ⟨-, rfl⟩ := h <;> simp only [List.length_cons] <;> omega

/-- The parts of a template, read from within quotes or outside of them. -/
def parts? (quoted : Bool) : List Char → Option (List Part)
  | [] => if quoted then none else some []
  | '\'' :: '\'' :: rest => (parts? quoted rest).map (.literal '\'' :: ·)
  | '\'' :: rest => parts? (!quoted) rest
  | c :: rest =>
    if quoted || !c.isAlpha then (parts? quoted rest).map (.literal c :: ·)
    else
      match h : dateField? (c :: rest) with
      | none => none
      | some (f, after) =>
        have := List.length_cons ▸ length_lt_of_dateField? h
        (parts? quoted after).map (.date f :: ·)
termination_by cs => cs.length

def DateField.text (t : Instant) : DateField → String
  | year => yearText t.date.year
  | yearOfCentury => padded 2 (t.date.year % 100).toNat
  | month => padded 2 t.date.month
  | day => padded 2 t.date.day
  | hour => padded 2 t.hour
  | minute => padded 2 t.minute
  | second => padded 2 t.second

def Part.text (t : Instant) : Part → String
  | literal c => c.toString
  | date f => f.text t

def Part.isDate : Part → Bool
  | literal _ => false
  | date _ => true

end IndexTemplate

structure IndexTemplate where
  /-- The template as written. -/
  text : String
  parts : List IndexTemplate.Part
deriving DecidableEq, Repr

namespace IndexTemplate

def ofText (text : String) : IndexTemplate where
  text
  parts := (parts? false text.toList).getD (text.toList.map .literal)

/-- Whether the name depends on the date. -/
def isDated (t : IndexTemplate) : Bool := t.parts.any Part.isDate

/-- The name of the index at a point in time. -/
def name (t : IndexTemplate) (now : Instant) : String :=
  String.join (t.parts.map (Part.text now))

end IndexTemplate

end AuditTrail
