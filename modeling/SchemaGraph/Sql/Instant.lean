/-!
# Instants

A point in time, and its date and time of day in universal time. Dates follow the Gregorian calendar
in both directions without end, with a year zero.
-/

namespace SchemaGraph.Sql

/-- A point in time: seconds since the beginning of 1970 and nanoseconds after that. A leap second
is the last second of a minute with a billion nanoseconds or more. -/
structure Instant where
  seconds : Int
  nanoseconds : Nat
  deriving DecidableEq, Repr

structure CivilDate where
  year : Int
  month : Nat
  day : Nat
  deriving DecidableEq, Repr

/-- The date of the day that is `days` days after the first of January 1970. Years are taken to
begin in March, so that the leap day is the last one; four centuries have 146097 days. -/
def CivilDate.ofDays (days : Int) : CivilDate :=
  let shifted := days + 719468
  let era := shifted.fdiv 146097
  let dayOfEra := (shifted.fmod 146097).toNat
  let yearOfEra := (dayOfEra - dayOfEra / 1460 + dayOfEra / 36524 - dayOfEra / 146096) / 365
  let dayOfYear := dayOfEra - (365 * yearOfEra + yearOfEra / 4 - yearOfEra / 100)
  let fromMarch := (5 * dayOfYear + 2) / 153
  let month := if fromMarch < 10 then fromMarch + 3 else fromMarch - 9
  let year : Int := yearOfEra + era * 400
  { year := if month ≤ 2 then year + 1 else year
    month
    day := dayOfYear - (153 * fromMarch + 2) / 5 + 1 }

def padded (width n : Nat) : String :=
  let digits := (toString n).toList
  String.ofList (List.replicate (width - digits.length) '0' ++ digits)

/-- A year: four digits, with a sign where four digits do not hold it. -/
def yearText (year : Int) : String :=
  if 0 ≤ year ∧ year ≤ 9999 then padded 4 year.toNat
  else (if year < 0 then "-" else "+") ++ padded 4 year.natAbs

/-- The instant in universal time, down to the second and without a zone. -/
def Instant.textToSecond (t : Instant) : String :=
  let date := CivilDate.ofDays (t.seconds.fdiv 86400)
  let second := (t.seconds.fmod 86400).toNat
  let leap := t.nanoseconds / 1000000000
  yearText date.year ++ "-" ++ padded 2 date.month ++ "-" ++ padded 2 date.day ++ "T"
    ++ padded 2 (second / 3600) ++ ":" ++ padded 2 (second / 60 % 60) ++ ":"
    ++ padded 2 (second % 60 + leap)

/-- The instant in universal time, down to the millisecond. -/
def Instant.text (t : Instant) : String :=
  t.textToSecond ++ "." ++ padded 3 (t.nanoseconds % 1000000000 / 1000000) ++ "Z"

end SchemaGraph.Sql
