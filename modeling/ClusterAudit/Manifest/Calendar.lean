/-!
# Dates and times

A moment has a date, a time of day with microseconds, and possibly an offset from universal time in
minutes.  Moments with offsets are compared by the instant they denote; a moment without an offset
differs from every moment with one.
-/

namespace ClusterAudit.Manifest

/-- A day of the proleptic Gregorian calendar. -/
structure Date where
  year : Nat
  month : Nat
  day : Nat
deriving DecidableEq, Repr, Inhabited

namespace Date

def isLeapYear (year : Nat) : Bool :=
  year % 4 = 0 && (year % 100 ≠ 0 || year % 400 = 0)

def daysInMonth (year month : Nat) : Nat :=
  if month = 2 then if isLeapYear year then 29 else 28
  else if month = 4 || month = 6 || month = 9 || month = 11 then 30
  else 31

/-- The number of days before the first day of the year, counted from the year 1. -/
def daysBeforeYear (year : Nat) : Nat :=
  let past := year - 1
  365 * past + past / 4 - past / 100 + past / 400

/-- The day counted from the first day of the year 1. -/
def ordinal (date : Date) : Nat :=
  daysBeforeYear date.year +
    (List.range (date.month - 1)).foldl (fun days m ↦ days + daysInMonth date.year (m + 1)) 0 +
    date.day

end Date

/-- A number in decimal, padded with zeros to a width. -/
def padded (width n : Nat) : String :=
  let digits := (Nat.repr n).toList
  String.ofList (List.replicate (width - digits.length) '0' ++ digits)

def Date.text (date : Date) : String :=
  padded 4 date.year ++ "-" ++ padded 2 date.month ++ "-" ++ padded 2 date.day

/-- A date with a time of day and, if known, the offset from universal time in minutes. -/
structure Moment where
  date : Date
  hour : Nat
  minute : Nat
  second : Nat
  microsecond : Nat
  offset : Option Int
deriving DecidableEq, Repr, Inhabited

namespace Moment

/-- Microseconds from the start of the year 1 in universal time; the offset counts as zero when it
is not known. -/
def instant (moment : Moment) : Int :=
  let minutes : Int := (moment.date.ordinal * 24 + moment.hour) * 60 + moment.minute
  ((minutes - moment.offset.getD 0) * 60 + moment.second) * 1000000 + moment.microsecond

/-- Equality of moments: by instant, and never between a known and an unknown offset. -/
def same (x y : Moment) : Bool :=
  x.offset.isSome = y.offset.isSome && x.instant = y.instant

def clockText (moment : Moment) : String :=
  padded 2 moment.hour ++ ":" ++ padded 2 moment.minute ++ ":" ++ padded 2 moment.second

/-- The offset as a sign, hours and minutes. -/
def offsetText (offset : Int) : String :=
  (if offset < 0 then "-" else "+") ++ padded 2 (offset.natAbs / 60) ++ ":" ++
    padded 2 (offset.natAbs % 60)

def text (moment : Moment) : String :=
  moment.date.text ++ " " ++ moment.clockText ++
    (if moment.microsecond = 0 then "" else "." ++ padded 6 moment.microsecond) ++
    (moment.offset.map offsetText).getD ""

/-- The time stamp of a report, to the second. -/
def stamp (moment : Moment) : String :=
  moment.date.text ++ "T" ++ moment.clockText

end Moment

end ClusterAudit.Manifest
