/-! # Instants

Points in time as seconds since the start of 1970 in UTC, and their calendar fields in the
proleptic Gregorian calendar. A leap second is told by a second's fraction of one or more.
-/

namespace AuditTrail

structure Instant where
  seconds : Int
  /-- Nanoseconds within the second; from `10 ^ 9` on, within the leap second after it. -/
  nanos : Nat := 0
deriving DecidableEq, Repr, Inhabited

/-- A calendar date. -/
structure Date where
  year : Int
  month : Nat
  day : Nat
deriving DecidableEq, Repr

/-- The date that lies a number of days after the first of January 1970. -/
def Date.ofDays (days : Int) : Date :=
  -- Years are counted from the first of March, so that a leap day ends its year.
  let shifted := days + 719468
  let era := shifted / 146097
  let dayOfEra := (shifted % 146097).toNat
  let yearOfEra := (dayOfEra - dayOfEra / 1460 + dayOfEra / 36524 - dayOfEra / 146096) / 365
  let dayOfYear := dayOfEra - (365 * yearOfEra + yearOfEra / 4 - yearOfEra / 100)
  let monthFromMarch := (5 * dayOfYear + 2) / 153
  let month := if monthFromMarch < 10 then monthFromMarch + 3 else monthFromMarch - 9
  { year := yearOfEra + era * 400 + (if month ≤ 2 then 1 else 0)
    month
    day := dayOfYear - (153 * monthFromMarch + 2) / 5 + 1 }

namespace Instant

def date (t : Instant) : Date := Date.ofDays (t.seconds / 86400)

def secondOfDay (t : Instant) : Nat := (t.seconds % 86400).toNat

def hour (t : Instant) : Nat := t.secondOfDay / 3600

def minute (t : Instant) : Nat := t.secondOfDay / 60 % 60

/-- The second of the minute, 60 for a leap second. -/
def second (t : Instant) : Nat := t.secondOfDay % 60 + t.nanos / Nat.pow 10 9

def millisecond (t : Instant) : Nat := t.nanos % Nat.pow 10 9 / Nat.pow 10 6

/-- Milliseconds since the start of 1970. -/
def totalMillis (t : Instant) : Int := t.seconds * 1000 + (t.nanos / Nat.pow 10 6 : Nat)

end Instant

/-- A number with zeros before it up to a width. -/
def padded (width n : Nat) : String :=
  let digits := n.repr.toList
  String.ofList (List.replicate (width - digits.length) '0' ++ digits)

/-- Four digits at least, and a sign before years that need more or lie before year zero. -/
def yearText (year : Int) : String :=
  let digits := padded 4 year.natAbs
  if year < 0 then "-" ++ digits else if 9999 < year then "+" ++ digits else digits

/-- The text of an instant in UTC to the millisecond, as in `2024-03-09T07:05:00.250Z`. -/
def Instant.text (t : Instant) : String :=
  yearText t.date.year ++ "-" ++ padded 2 t.date.month ++ "-" ++ padded 2 t.date.day ++ "T" ++
    padded 2 t.hour ++ ":" ++ padded 2 t.minute ++ ":" ++ padded 2 t.second ++ "." ++
    padded 3 t.millisecond ++ "Z"

end AuditTrail
