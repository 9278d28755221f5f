/-!
# Calendar

Dates of the Gregorian calendar, extended to all years, and instants of universal time.
A date is a count of days and an instant a count of seconds, both from the first of
January 1970, so that order and distance are those of the counts.
-/

namespace SampleData

/-- A date, as the number of days since 1970-01-01. -/
structure Date where
  number : Int
  deriving DecidableEq, Repr, Inhabited

/-- An instant, as the seconds and nanoseconds since the start of 1970-01-01. -/
structure Instant where
  seconds : Int
  nanos : Nat := 0
  deriving DecidableEq, Repr, Inhabited

namespace Calendar

def daySeconds : Int := 86400

def firstYear : Int := -9999

def lastYear : Int := 9999

def isLeap (year : Int) : Bool :=
  year % 4 == 0 && (year % 100 != 0 || year % 400 == 0)

/-- The day number of the first of January of a year. -/
def yearStart (year : Int) : Int :=
  let passed := year - 1
  365 * passed + passed / 4 - passed / 100 + passed / 400 - 719162

def monthLengths (leap : Bool) : List Nat :=
  [31, if leap then 29 else 28, 31, 30, 31, 30, 31, 31, 30, 31, 30, 31]

/--
The year that a day number falls in: an estimate by the mean year, mended by one where it is
off.
-/
def yearOf (number : Int) : Int :=
  let estimate := 400 * (number + 719162) / 146097 + 1
  if number < yearStart estimate then
    estimate - 1
  else if yearStart (estimate + 1) ≤ number then
    estimate + 1
  else
    estimate

/-- Month and day of the month, both from one, for the days passed since the year began. -/
def monthAndDay : List Nat → Nat → Nat → Nat × Nat
  | [], month, passed => (month, passed + 1)
  | length :: rest, month, passed =>
      if passed < length then (month, passed + 1) else monthAndDay rest (month + 1) (passed - length)

def daysBefore (leap : Bool) (month : Nat) : Nat :=
  ((monthLengths leap).take (month - 1)).foldr (· + ·) 0

end Calendar

namespace Date

open Calendar

/-- The date of a year, month and day of the month, month and day counted from one. -/
def ofCivil (year : Int) (month day : Nat) : Date :=
  ⟨yearStart year + daysBefore (isLeap year) month + day - 1⟩

def year (date : Date) : Int :=
  yearOf date.number

def monthDay (date : Date) : Nat × Nat :=
  monthAndDay (monthLengths (isLeap date.year)) 1 (date.number - yearStart date.year).toNat

def midnight (date : Date) : Instant :=
  ⟨date.number * daySeconds, 0⟩

/-- The first of January of a year, if the calendar knows the year. -/
def newYear? (year : Int) : Option Date :=
  if firstYear ≤ year ∧ year ≤ lastYear then some ⟨yearStart year⟩ else none

def decadeStart? (year : Int) : Option Date :=
  newYear? (year - year % 10)

end Date

namespace Instant

open Calendar

def date (instant : Instant) : Date :=
  ⟨instant.seconds / daySeconds⟩

def secondOfDay (instant : Instant) : Nat :=
  (instant.seconds % daySeconds).toNat

end Instant

end SampleData
