/-!
# Dates and times

Days of the proleptic Gregorian calendar, which has a year zero and negative
years, and times of day with nanoseconds.  A leap second is the last second of
its minute with a billion nanoseconds or more.
-/

namespace ClauseTree

/-- A day of the calendar. -/
structure Date where
  year : Int
  month : Nat
  day : Nat
deriving DecidableEq, Repr

/-- A time of day. -/
structure Time where
  hour : Nat
  minute : Nat
  second : Nat
  nanosecond : Nat
deriving DecidableEq, Repr

/-- A day and a time of that day. -/
structure Timestamp where
  date : Date
  time : Time
deriving DecidableEq, Repr

namespace Calendar

/-- A number with zeros in front, up to a width. -/
def padded (width n : Nat) : String :=
  let digits := (Nat.repr n).toList
  String.ofList (List.replicate (width - digits.length) '0' ++ digits)

def nanosPerSecond : Nat := 1000000000

/-- The fraction of a second with three, six or nine digits, the fewest that
are exact, and none when it is zero. -/
def fraction (nanos : Nat) : String :=
  if nanos = 0 then ""
  else if nanos % 1000000 = 0 then "." ++ padded 3 (nanos / 1000000)
  else if nanos % 1000 = 0 then "." ++ padded 6 (nanos / 1000)
  else "." ++ padded 9 nanos

end Calendar

namespace Date

/-- Years of four digits are written plainly, all others with a sign and at
least four digits. -/
def yearText (year : Int) : String :=
  if 0 ≤ year ∧ year ≤ 9999 then Calendar.padded 4 year.toNat
  else (if year < 0 then "-" else "+") ++ Calendar.padded 4 year.natAbs

/-- Year, month and day with hyphens between them. -/
def text (date : Date) : String :=
  yearText date.year ++ "-" ++ Calendar.padded 2 date.month ++ "-" ++
    Calendar.padded 2 date.day

/-- The number of a day, counted from the first of March of year zero.  Years
are taken to begin in March, so that a leap day is the last day of its year and
the months before any other have the lengths that the linear formula gives. -/
def dayNumber (date : Date) : Int :=
  let year := if date.month ≤ 2 then date.year - 1 else date.year
  let month := (date.month + 9) % 12
  365 * year + year / 4 - year / 100 + year / 400 +
    ((153 * month + 2) / 5 + date.day : Nat) - 1

/-- The first day of the year 2000, from which PostgreSQL counts. -/
def epoch : Date := ⟨2000, 1, 1⟩

/-- The days from the epoch to a date. -/
def daysSinceEpoch (date : Date) : Int :=
  date.dayNumber - epoch.dayNumber

end Date

namespace Time

/-- Hours, minutes and seconds with colons between them, and the fraction.  A
leap second is written as second sixty. -/
def text (time : Time) : String :=
  let leap := time.nanosecond / Calendar.nanosPerSecond
  Calendar.padded 2 time.hour ++ ":" ++ Calendar.padded 2 time.minute ++ ":" ++
    Calendar.padded 2 (time.second + leap) ++
    Calendar.fraction (time.nanosecond % Calendar.nanosPerSecond)

/-- The nanoseconds since midnight; a leap second runs on past its minute. -/
def nanosSinceMidnight (time : Time) : Nat :=
  (time.hour * 3600 + time.minute * 60 + time.second) * Calendar.nanosPerSecond +
    time.nanosecond

/-- The whole microseconds since midnight. -/
def microsSinceMidnight (time : Time) : Nat :=
  time.nanosSinceMidnight / 1000

end Time

namespace Timestamp

/-- Date and time with a blank between them. -/
def text (timestamp : Timestamp) : String :=
  timestamp.date.text ++ " " ++ timestamp.time.text

/-- Date and time of a moment in universal time, with the offset written out. -/
def zonedText (timestamp : Timestamp) : String :=
  timestamp.date.text ++ "T" ++ timestamp.time.text ++ "+00:00"

/-- The microseconds since the epoch, without the fraction of the last one on
either side of it. -/
def microsSinceEpoch (timestamp : Timestamp) : Int :=
  Int.tdiv
    (timestamp.date.daysSinceEpoch * (86400 * Calendar.nanosPerSecond : Nat) +
      timestamp.time.nanosSinceMidnight)
    1000

end Timestamp

end ClauseTree
