/-!
# Timestamps

A timestamp counts seconds from the start of 1970 in Universal Time, and nanoseconds within the
second. Its text is the date and the time of day in the proleptic Gregorian calendar, with as many
groups of three fraction digits as the nanoseconds need and the offset written as the caller wants.
A program looks at the clock again and again, and may be told another time at each look.
-/

namespace Conformance

/-- A day of the Gregorian calendar. -/
structure Date where
  /-- The year; the year before year one is year zero. -/
  year : Int
  /-- The month, from one. -/
  month : Nat
  /-- The day of the month, from one. -/
  day : Nat
  deriving Repr, DecidableEq, Inhabited

/-- The day that lies a number of days after the first day of 1970. Years are counted from March
here, so that a leap day is the last day of its year, and in eras of 400 years, which all have the
same number of days. -/
def Date.ofDays (days : Int) : Date :=
  let fromMarch := days + 719468
  let era := fromMarch.fdiv 146097
  let dayOfEra := (fromMarch.fmod 146097).toNat
  let yearOfEra :=
    (dayOfEra - dayOfEra / 1460 + dayOfEra / 36524 - dayOfEra / 146096) / 365
  let dayOfYear := dayOfEra - (365 * yearOfEra + yearOfEra / 4 - yearOfEra / 100)
  let month := (5 * dayOfYear + 2) / 153
  let day := dayOfYear - (153 * month + 2) / 5 + 1
  let year := era * 400 + yearOfEra
  if month < 10 then ⟨year, month + 3, day⟩ else ⟨year + 1, month - 9, day⟩

/-- A moment in Universal Time. -/
structure Timestamp where
  /-- The seconds since the start of 1970. -/
  seconds : Int
  /-- The nanoseconds within the second, up to two billion in a leap second. -/
  nanos : Nat
  deriving Repr, DecidableEq, Inhabited

namespace Timestamp

/-- A number with at least `width` digits. -/
def digits (width number : Nat) : String :=
  let text := toString number
  String.ofList (List.replicate (width - text.length) '0') ++ text

/-- A year with four digits, and with a sign where four digits do not hold it. -/
def yearText (year : Int) : String :=
  if 0 ≤ year ∧ year ≤ 9999 then digits 4 year.toNat
  else (if year < 0 then "-" else "+") ++ digits 4 year.natAbs

/-- The fraction of a second, in the fewest groups of three digits that hold it. -/
def fractionText (nanos : Nat) : String :=
  if nanos = 0 then ""
  else if nanos % 1000000 = 0 then "." ++ digits 3 (nanos / 1000000)
  else if nanos % 1000 = 0 then "." ++ digits 6 (nanos / 1000)
  else "." ++ digits 9 nanos

/-- The date and the time of day, followed by the spelling of the offset. A second with a billion
nanoseconds or more is a leap second, the one after the last of its minute. -/
def format (offset : String) (timestamp : Timestamp) : String :=
  let date := Date.ofDays (timestamp.seconds.fdiv 86400)
  let second := (timestamp.seconds.fmod 86400).toNat
  let leap := timestamp.nanos / 1000000000
  yearText date.year ++ "-" ++ digits 2 date.month ++ "-" ++ digits 2 date.day ++ "T" ++
    digits 2 (second / 3600) ++ ":" ++ digits 2 (second / 60 % 60) ++ ":" ++
    digits 2 (second % 60 + leap) ++ fractionText (timestamp.nanos % 1000000000) ++ offset

end Timestamp

/-- A clock: the time that it tells at each look, the looks counted from zero. -/
abbrev Clock := Nat → Timestamp

example : Date.ofDays 0 = ⟨1970, 1, 1⟩ := by decide
example : Date.ofDays 11016 = ⟨2000, 2, 29⟩ := by decide
example : Date.ofDays (-719528) = ⟨0, 1, 1⟩ := by decide

end Conformance
